import ApiBalancer.Json.Basic

/-!
# Writing JSON

`Json.compact` writes a value on one line without any white space, `Json.pretty` with a line for
each item and member. Characters are written as themselves, except quotes, backslashes and what has
a code point below U+0020.
-/

namespace ApiBalancer.Json

/-- A code point below 256 in an escape by number. -/
def hexEscape (n : Nat) : List Char :=
  ['\\', 'u', '0', '0'] ++ [Nat.digitChar (n / 16), Nat.digitChar (n % 16)]

def escape (c : Char) : List Char :=
  if c = '"' then ['\\', '"']
  else if c = '\\' then ['\\', '\\']
  else if c = '\x08' then ['\\', 'b']
  else if c = '\t' then ['\\', 't']
  else if c = '\n' then ['\\', 'n']
  else if c = '\x0c' then ['\\', 'f']
  else if c = '\r' then ['\\', 'r']
  else if c.toNat < 0x20 then hexEscape c.toNat
  else [c]

/-- A string. One that denotes no text is written as half of a surrogate pair. -/
def writeString : Option String → List Char
  | some s => ['"'] ++ s.toList.flatMap escape ++ ['"']
  | none => "\"\\ud800\"".toList

mutual

def write : Json → List Char
  | null => "null".toList
  | bool true => "true".toList
  | bool false => "false".toList
  | number written => written.toList
  | string text => writeString text
  | array items => ['['] ++ writeItems items ++ [']']
  | object members => ['{'] ++ writeMembers members ++ ['}']

def writeItems : List Json → List Char
  | [] => []
  | [item] => write item
  | item :: rest => write item ++ [','] ++ writeItems rest

def writeMembers : List (Option String × Json) → List Char
  | [] => []
  | [(key, value)] => writeString key ++ [':'] ++ write value
  | (key, value) :: rest =>
    writeString key ++ [':'] ++ write value ++ [','] ++ writeMembers rest

end

/-- A value on one line. -/
def compact (j : Json) : String := String.ofList (write j)

/-- A new line, indented by two spaces for each level. -/
def newline (level : Nat) : List Char := '\n' :: List.replicate (2 * level) ' '

mutual

/-- A value over several lines; its first line is not indented, the others are by `level`. -/
def writeLines (level : Nat) : Json → List Char
  | array (item :: items) =>
    ['['] ++ writeItemLines (level + 1) (item :: items) ++ newline level ++ [']']
  | object (member :: members) =>
    ['{'] ++ writeMemberLines (level + 1) (member :: members) ++ newline level ++ ['}']
  | other => write other

/-- The items of an array, each on new lines. -/
def writeItemLines (level : Nat) : List Json → List Char
  | [] => []
  | [item] => newline level ++ writeLines level item
  | item :: rest => newline level ++ writeLines level item ++ [','] ++ writeItemLines level rest

/-- The members of an object, each on new lines. -/
def writeMemberLines (level : Nat) : List (Option String × Json) → List Char
  | [] => []
  | [(key, value)] => newline level ++ writeString key ++ [':', ' '] ++ writeLines level value
  | (key, value) :: rest =>
    newline level ++ writeString key ++ [':', ' '] ++ writeLines level value ++ [','] ++
      writeMemberLines level rest

end

def pretty (j : Json) : String := String.ofList (writeLines 0 j)

end ApiBalancer.Json
