import ApiBalancer.Toml.Value

/-!
# Writing TOML

Of the four ways to write a string the first is taken, in a fixed order, that needs no escapes; if
each of them needs some, double quotes are taken. `Toml.written` is the string as it is written.
-/

namespace ApiBalancer.Toml

def longestRun (c : Char) : List Char → Nat
  | [] => 0
  | d :: rest => max ((d :: rest).takeWhile (· = c)).length (longestRun c rest)

/-- Whether a string can be written without escapes between double quotes. -/
def isUnescaped (s : List Char) : Bool := s.all fun c => (isPlain c || c = '\n') && c != '\\'

/-- Whether a string can be written between single quotes. -/
def isVerbatim (s : List Char) : Bool := s.all fun c => isPlain c || c = '\n'

def numbered (c : Char) : List Char :=
  ['\\', 'u', '0', '0'] ++ [Nat.digitChar (c.toNat / 16), Nat.digitChar (c.toNat % 16)].map
    Char.toUpper

/-- How a character other than a double quote is written between double quotes. -/
def escape (c : Char) : List Char :=
  if c = '\\' then ['\\', '\\']
  else if c = '\x08' then ['\\', 'b']
  else if c = '\t' then ['\\', 't']
  else if c = '\n' then ['\\', 'n']
  else if c = '\x0c' then ['\\', 'f']
  else if c = '\r' then ['\\', 'r']
  else if isPlain c then [c]
  else numbered c

/-- The content of a string between double quotes on one line. -/
def oneLine : List Char → List Char
  | [] => []
  | c :: rest => (if c = '"' then ['\\', '"'] else escape c) ++ oneLine rest

/-- The content of a string between three double quotes, after `run` double quotes. Every third of a
run is escaped, so the content never holds three of them. -/
def manyLines (run : Nat) : List Char → List Char
  | [] => []
  | c :: rest =>
    if c = '"' then
      if run = 2 then ['\\', '"'] ++ manyLines 0 rest else '"' :: manyLines (run + 1) rest
    else if c = '\n' then '\n' :: manyLines 0 rest
    else escape c ++ manyLines 0 rest

inductive Style where
  | basic
  | literal
  | multiBasic
  | multiLiteral
deriving DecidableEq, Repr

def style (s : List Char) : Style :=
  if isUnescaped s ∧ longestRun '"' s = 0 ∧ '\n' ∉ s then .basic
  else if isVerbatim s ∧ longestRun '\'' s = 0 ∧ '\n' ∉ s then .literal
  else if isUnescaped s ∧ longestRun '"' s ≤ 2 then .multiBasic
  else if isVerbatim s ∧ longestRun '\'' s ≤ 2 then .multiLiteral
  else if '\n' ∈ s then .multiBasic
  else .basic

/-- The line end that follows three opening quotes if the string has line ends itself. -/
def lead (s : List Char) : List Char := if '\n' ∈ s then ['\n'] else []

def inStyle (s : List Char) : Style → List Char
  | .basic => ['"'] ++ oneLine s ++ ['"']
  | .literal => ['\''] ++ s ++ ['\'']
  | .multiBasic => ['"', '"', '"'] ++ lead s ++ manyLines 0 s ++ ['"', '"', '"']
  | .multiLiteral => ['\'', '\'', '\''] ++ lead s ++ s ++ ['\'', '\'', '\'']

def written (s : String) : String := String.ofList (inStyle s.toList (style s.toList))

def writtenBool (b : Bool) : String := if b then "true" else "false"

/-- The lines of a table: its header, and its keys with what is written for their values. -/
def tableLines (name : String) (members : List (String × String)) : List String :=
  ("[" ++ name ++ "]") :: members.map fun m => m.1 ++ " = " ++ m.2

end ApiBalancer.Toml
