/-!
# Errors of the operating system
-/

namespace ApiBalancer

/-- Why the operating system did not read a file, start a command or pass on its input. -/
inductive OsError where
  | notFound
  | permissionDenied
  | notDirectory
  | isDirectory
  | brokenPipe
  | nameTooLong
  | notSupported
  /-- A file that was to be read as text is not UTF-8. -/
  | notText
  | nulInPath
  | nulInArgument
deriving DecidableEq, Repr

def OsError.message : OsError → String
  | notFound => "No such file or directory (os error 2)"
  | permissionDenied => "Permission denied (os error 13)"
  | notDirectory => "Not a directory (os error 20)"
  | isDirectory => "Is a directory (os error 21)"
  | brokenPipe => "Broken pipe (os error 32)"
  | nameTooLong => "File name too long (os error 36)"
  | notSupported => "Operation not supported (os error 95)"
  | notText => "stream did not contain valid UTF-8"
  | nulInPath => "file name contained an unexpected NUL byte"
  | nulInArgument => "nul byte found in provided data"

end ApiBalancer
