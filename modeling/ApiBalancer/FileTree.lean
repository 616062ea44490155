import ApiBalancer.Engine.OsError
import ApiBalancer.Text.Blank

/-!
# File trees

A working directory with the files in it, as data. `FileTree.read` looks a path up as the operating
system does, with its errors. Outside the working directory nothing is found.
-/

namespace ApiBalancer

/-- The files of a working directory, each with the names on the way to it. -/
structure FileTree where
  files : List (List String × ByteArray) := []

namespace FileTree

/-- The names on a path. Empty ones, between two slashes or after the last one, ask for a
directory. -/
def namesOf (path : String) : List String := Text.parts '/' path

/-- Whether a name stays in the directory. -/
def staysThere (name : String) : Bool := name = "" || name = "."

def ofList (files : List (String × ByteArray)) : FileTree :=
  ⟨files.map fun f => ((namesOf f.1).filter (! staysThere ·), f.2)⟩

inductive Place where
  | outside
  | directory (names : List String)
  | file (content : ByteArray)

/-- The longest name of a file, in bytes. -/
def nameLimit : Nat := 255

/-- The number of bytes that is too many for a path. -/
def pathLimit : Nat := 4096

/-- What has a name in a directory. -/
def enter (tree : FileTree) (names : List String) (name : String) : Except OsError Place :=
  let inner := names ++ [name]
  if nameLimit < name.utf8ByteSize then .error .nameTooLong
  else
    match tree.files.find? (·.1 == inner) with
    | some f => .ok (.file f.2)
    | none =>
      if tree.files.any fun f => inner.isPrefixOf f.1 then .ok (.directory inner)
      else .error .notFound

def follow (tree : FileTree) : Place → List String → Except OsError Place
  | place, [] => .ok place
  | .file _, _ :: _ => .error .notDirectory
  | .outside, name :: rest =>
    if staysThere name || name = ".." then follow tree .outside rest
    else if nameLimit < name.utf8ByteSize then .error .nameTooLong
    else .error .notFound
  | .directory names, name :: rest =>
    if staysThere name then follow tree (.directory names) rest
    else if name = ".." then
      follow tree (if names.isEmpty then .outside else .directory names.dropLast) rest
    else
      match tree.enter names name with
      | .ok place => follow tree place rest
      | .error e => .error e

def read (tree : FileTree) (path : String) : Except OsError ByteArray :=
  if path.toList.contains '\x00' then .error .nulInPath
  else if path.isEmpty then .error .notFound
  else if pathLimit ≤ path.utf8ByteSize then .error .nameTooLong
  else
    let start := if path.startsWith "/" then Place.outside else .directory []
    match tree.follow start (namesOf path) with
    | .ok (.file content) => .ok content
    | .ok _ => .error .isDirectory
    | .error e => .error e

end FileTree

end ApiBalancer
