import ApiBalancer.CommandLine.Log
import ApiBalancer.CommandLine.Run

/-!
# The command line

Reads the file with the settings, carries out the order and writes the report. This build starts no
commands of its own, so an order that needs the container engine fails; a dry run needs none.
-/

namespace ApiBalancer.CommandLine

def idleHost : Host Unit := ⟨fun _ state => (state, .notStarted .notSupported)⟩

/-- The error of the operating system that reading a file has met. -/
def osErrorOf : IO.Error → OsError
  | .permissionDenied .. => .permissionDenied
  | .inappropriateType .. => .isDirectory
  | .invalidArgument .. => .nulInPath
  | .noSuchThing .. | .noFileOrDirectory .. => .notFound
  | _ => .notSupported

def readFile (path : String) : IO (Except OsError ByteArray) := do
  try
    return .ok (← IO.FS.readBinFile path)
  catch e =>
    return .error (osErrorOf e)

/-- Writes a report; the result is the exit status. -/
def write (format : LogFormat) (report : Report) : IO UInt32 := do
  for event in report.events do
    IO.eprintln (logLine event format)
  IO.print report.stdout
  IO.eprint report.stderr
  return report.status.toUInt32

end ApiBalancer.CommandLine

open ApiBalancer CommandLine

def main (arguments : List String) : IO UInt32 := do
  match parse arguments with
  | .error refusal => write .text refusal.report
  | .ok order =>
    let file ← match order.config with
      | some path => readFile path
      | none => pure (.error .notFound)
    match (execute idleHost (fun _ => file) order ()).2 with
    | some report => write order.logFormat report
    | none => return 1
