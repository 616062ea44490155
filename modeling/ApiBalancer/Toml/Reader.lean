import ApiBalancer.Toml.DateTime
import ApiBalancer.Toml.Key
import ApiBalancer.Toml.Table

/-!
# Reading TOML

A document is read line by line; `Toml.parse?` gives the table that its lines make. Arrays and
inline tables stand inside each other to a limited depth only.
-/

namespace ApiBalancer.Toml

/-- Drops blanks, comments and line ends in front. A comment needs a line end after it. -/
def skipVoid? (inComment : Bool) : List Char → Option (List Char)
  | [] => if inComment then none else some []
  | '\r' :: '\n' :: rest => skipVoid? false rest
  | c :: rest =>
    if c = '\n' then skipVoid? false rest
    else if inComment then if isPlain c then skipVoid? true rest else none
    else if isBlank c then skipVoid? false rest
    else if c = '#' then skipVoid? true rest
    else if c = '\r' then none
    else some (c :: rest)

/-- A value that holds no others. -/
def scalar? : List Char → Option (Value × List Char)
  | 't' :: 'r' :: 'u' :: 'e' :: rest => some (.boolean true, rest)
  | 'f' :: 'a' :: 'l' :: 's' :: 'e' :: rest => some (.boolean false, rest)
  | c :: rest =>
    if c = '"' || c = '\'' then
      (quoted? (c :: rest)).map fun r => (.string (String.ofList r.1), r.2)
    else ((dateTime? (c :: rest)).or (float? (c :: rest))).or (integer? (c :: rest))
  | [] => none

/-- The items of an array after its opening bracket, by a reader of items. There may be a comma
after the last one. -/
def items? (item? : List Char → Option (Value × List Char)) (s : List Char) :
    Option (List Value × List Char) := do
  match ← skipVoid? false s with
  | ']' :: rest => some ([], rest)
  | s' =>
    let (item, rest) ← item? s'
    match ← skipVoid? false rest with
    | ',' :: rest' =>
      if _h : rest'.length < s.length then
        (items? item? rest').map fun r => (item :: r.1, r.2)
      else none
    | ']' :: rest' => some ([item], rest')
    | _ => none
termination_by s.length

/-- A path and its value, by a reader of values. -/
def member? (value? : List Char → Option (Value × List Char)) (s : List Char) :
    Option ((List String × Value) × List Char) := do
  let (path, rest) ← path? s
  match rest with
  | '=' :: rest' =>
    let (value, rest'') ← value? (skipBlanks rest')
    some ((path, value), skipBlanks rest'')
  | _ => none

/-- The members of an inline table that has some, after its opening brace. -/
def members? (value? : List Char → Option (Value × List Char)) (s : List Char) :
    Option (List (List String × Value) × List Char) := do
  let (member, rest) ← member? value? s
  match rest with
  | ',' :: rest' =>
    if _h : rest'.length < s.length then
      (members? value? rest').map fun r => (member :: r.1, r.2)
    else none
  | '}' :: rest' => some ([member], rest')
  | _ => none
termination_by s.length

/-- An inline table after its opening brace. -/
def inlineTable? (value? : List Char → Option (Value × List Char)) (s : List Char) :
    Option (Value × List Char) :=
  match skipBlanks s with
  | '}' :: rest => some (.table [], rest)
  | s' => do
    let (members, rest) ← members? value? s'
    return (← tableOf? members, rest)

/-- A value with at most `depth` arrays and inline tables inside each other. -/
def valueTo? : (depth : Nat) → List Char → Option (Value × List Char)
  | 0, '[' :: _ | 0, '{' :: _ => none
  | depth + 1, '[' :: rest => (items? (valueTo? depth) rest).map fun r => (.array r.1, r.2)
  | depth + 1, '{' :: rest => inlineTable? (valueTo? depth) rest
  | _, s => scalar? s

/-- How many arrays and inline tables may stand inside each other. -/
def depthLimit : Nat := 79

def value? (s : List Char) : Option (Value × List Char) := valueTo? depthLimit s

/-- Reads past the end of a line, before which there may be a comment. -/
def endOfLine? (s : List Char) : Option (List Char) :=
  let s := skipBlanks s
  let rest := match s with
    | '#' :: comment => comment.dropWhile isPlain
    | _ => s
  match rest with
  | [] => some []
  | '\n' :: rest' => some rest'
  | '\r' :: '\n' :: rest' => some rest'
  | _ => none

/-- The header of a table after its opening bracket. -/
def header? (s : List Char) : Option (Statement × List Char) := do
  match ← path? s with
  | (path, ']' :: rest) => some (.table path, rest)
  | _ => none

/-- The header of an array's next table after its opening brackets. -/
def elementHeader? (s : List Char) : Option (Statement × List Char) := do
  match ← path? s with
  | (path, ']' :: ']' :: rest) => some (.element path, rest)
  | _ => none

/-- What a line says, if it is not blank; `s` starts with what is no blank. -/
def statement? (s : List Char) : Option (Option Statement × List Char) :=
  match s with
  | '[' :: '[' :: rest => (elementHeader? rest).map fun r => (some r.1, r.2)
  | '[' :: rest => (header? rest).map fun r => (some r.1, r.2)
  | [] | '#' :: _ | '\r' :: _ | '\n' :: _ => some (none, s)
  | _ => (member? value? s).map fun r => (some (.assign r.1.1 r.1.2), r.2)

def line? (s : List Char) : Option (Option Statement × List Char) := do
  let (statement, rest) ← statement? (skipBlanks s)
  return (statement, ← endOfLine? rest)

def statements? (s : List Char) : Option (List Statement) :=
  if s.isEmpty then some []
  else do
    let (statement, rest) ← line? s
    if _h : rest.length < s.length then
      (statements? rest).map fun others => statement.toList ++ others
    else none
termination_by s.length

/-- Drops a byte order mark in front. -/
def dropMark : List Char → List Char
  | c :: rest => if c = '\uFEFF' then rest else c :: rest
  | [] => []

/-- The table that a document makes. -/
def parse? (s : String) : Option Value :=
  (statements? (dropMark s.toList)).bind ofStatements?

end ApiBalancer.Toml
