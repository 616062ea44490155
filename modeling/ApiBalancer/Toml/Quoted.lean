import ApiBalancer.Json.Token
import ApiBalancer.Toml.Value

/-!
# Strings in TOML

The four ways to write a string: between double quotes, where a backslash starts an escape, or
between single quotes, where every character stands for itself; and each of them on one line, or
between three quotes over several. Every function here reads what follows the opening quotes, and
gives the string and what follows the closing ones.
-/

namespace ApiBalancer.Toml

/-- What an escape of one character stands for. -/
def escaped? : Char → Option Char
  | 'b' => some '\x08'
  | 't' => some '\t'
  | 'n' => some '\n'
  | 'f' => some '\x0c'
  | 'r' => some '\r'
  | '"' => some '"'
  | '\\' => some '\\'
  | _ => none

/-- The character that hexadecimal digits name. -/
def named? (digits : List Char) : Option Char := do
  let values ← digits.mapM Json.Token.hexDigit?
  let n := values.foldl (fun n d => 16 * n + d) 0
  if n.isValidChar then some (Char.ofNat n) else none

/-- Puts a character in front of a string that has been read. -/
def put (c : Char) (read : List Char × List Char) : List Char × List Char := (c :: read.1, read.2)

/-- A string between double quotes, on one line. -/
def basic? : List Char → Option (List Char × List Char)
  | [] => none
  | '"' :: rest => some ([], rest)
  | '\\' :: 'u' :: a :: b :: c :: d :: rest =>
    (named? [a, b, c, d]).bind fun x => (basic? rest).map (put x)
  | '\\' :: 'U' :: a :: b :: c :: d :: e :: f :: g :: h :: rest =>
    (named? [a, b, c, d, e, f, g, h]).bind fun x => (basic? rest).map (put x)
  | '\\' :: c :: rest => (escaped? c).bind fun x => (basic? rest).map (put x)
  | c :: rest => if isPlain c then (basic? rest).map (put c) else none

/-- A string between single quotes, on one line. -/
def literal? : List Char → Option (List Char × List Char)
  | [] => none
  | '\'' :: rest => some ([], rest)
  | c :: rest => if isPlain c then (literal? rest).map (put c) else none

/-- What follows three closing quotes: up to two more quotes still belong to the string. -/
def closing (quote : Char) : List Char → List Char × List Char
  | a :: b :: rest =>
    if a = quote then
      if b = quote then ([a, b], rest) else ([a], b :: rest)
    else ([], a :: b :: rest)
  | [a] => if a = quote then ([a], []) else ([], [a])
  | [] => ([], [])

/-- Whether only blanks stand before the end of the line. -/
def endsLine (s : List Char) : Bool :=
  match skipBlanks s with
  | '\n' :: _ => true
  | '\r' :: '\n' :: _ => true
  | _ => false

/-- A string between three double quotes. A backslash at the end of a line drops the white space up
to the next other character; `skipping` tells that this is under way. -/
def multiBasic? (skipping : Bool) : List Char → Option (List Char × List Char)
  | [] => none
  | '"' :: '"' :: '"' :: rest => some (closing '"' rest)
  | '\\' :: 'u' :: a :: b :: c :: d :: rest =>
    (named? [a, b, c, d]).bind fun x => (multiBasic? false rest).map (put x)
  | '\\' :: 'U' :: a :: b :: c :: d :: e :: f :: g :: h :: rest =>
    (named? [a, b, c, d, e, f, g, h]).bind fun x => (multiBasic? false rest).map (put x)
  | '\\' :: c :: rest =>
    match escaped? c with
    | some x => (multiBasic? false rest).map (put x)
    | none => if endsLine (c :: rest) then multiBasic? true (c :: rest) else none
  | '\r' :: '\n' :: rest =>
    if skipping then multiBasic? true rest else (multiBasic? false rest).map (put '\n')
  | c :: rest =>
    if skipping && (isBlank c || c = '\n') then multiBasic? true rest
    else if isPlain c || c = '\n' then (multiBasic? false rest).map (put c)
    else none

def multiLiteral? : List Char → Option (List Char × List Char)
  | [] => none
  | '\'' :: '\'' :: '\'' :: rest => some (closing '\'' rest)
  | '\r' :: '\n' :: rest => (multiLiteral? rest).map (put '\n')
  | c :: rest =>
    if isPlain c || c = '\n' then (multiLiteral? rest).map (put c) else none

def dropLineEnd : List Char → List Char
  | '\n' :: rest => rest
  | '\r' :: '\n' :: rest => rest
  | rest => rest

/-- A string in any of the four ways, with its opening quotes. -/
def quoted? : List Char → Option (List Char × List Char)
  | '"' :: '"' :: '"' :: rest => multiBasic? false (dropLineEnd rest)
  | '"' :: rest => basic? rest
  | '\'' :: '\'' :: '\'' :: rest => multiLiteral? (dropLineEnd rest)
  | '\'' :: rest => literal? rest
  | _ => none

end ApiBalancer.Toml
