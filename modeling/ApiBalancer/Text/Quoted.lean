import ApiBalancer.Text.Printable

/-!
# Quoted text

How values are shown in messages: a text between quotes with everything unprintable spelled out,
and the records, lists and maps built from such texts.
-/

namespace ApiBalancer.Text

/-- A character by its number: a backslash, a `u`, and the number in braces. -/
def codePoint (c : Char) : List Char :=
  ['\\', 'u', '{'] ++ Nat.toDigits 16 c.toNat ++ ['}']

def escape (c : Char) : List Char :=
  if c = '"' then ['\\', '"']
  else if c = '\\' then ['\\', '\\']
  else if c = '\n' then ['\\', 'n']
  else if c = '\r' then ['\\', 'r']
  else if c = '\t' then ['\\', 't']
  else if c = '\x00' then ['\\', '0']
  else if isPrintable c then [c]
  else codePoint c

/-- A text between quotes. -/
def quote (s : String) : String :=
  String.ofList (['"'] ++ s.toList.flatMap escape ++ ['"'])

def shownList (items : List String) : String :=
  "[" ++ ", ".intercalate items ++ "]"

def shownMap (entries : List (String × String)) : String :=
  "\x7b" ++ ", ".intercalate (entries.map fun e => e.1 ++ ": " ++ e.2) ++ "\x7d"

/-- The fields of a record, each as its name and its shown value. -/
def shownFields (fields : List (String × String)) : String :=
  ", ".intercalate (fields.map fun f => f.1 ++ ": " ++ f.2)

/-- A record of which all fields are shown. -/
def shownRecord (name : String) (fields : List (String × String)) : String :=
  name ++ " \x7b " ++ shownFields fields ++ " \x7d"

/-- A record of which some fields are left out. -/
def shownPart (name : String) (fields : List (String × String)) : String :=
  name ++ " \x7b " ++ shownFields fields ++ ", .. \x7d"

/-- A constructor applied to one shown argument. -/
def shownApplied (name argument : String) : String :=
  name ++ "(" ++ argument ++ ")"

def shownOption (value : Option String) : String :=
  match value with
  | some v => shownApplied "Some" v
  | none => "None"

end ApiBalancer.Text
