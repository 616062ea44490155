import ApiBalancer.Json.Token
import ApiBalancer.Toml.Value

/-!
# Numbers in TOML

Integers have 64 bits; in base ten they may have a sign, and not a zero in front. A float has a
fraction, an exponent or both, and must not be too large for a binary number of 64 bits. Single
underscores may stand between digits.
-/

namespace ApiBalancer.Toml

/-- The longest run of digits in front, without the underscores between them. -/
def digitRun (isDigit : Char → Bool) : List Char → List Char × List Char
  | c :: '_' :: d :: rest =>
    if isDigit c then
      if isDigit d then
        let (ds, r) := digitRun isDigit (d :: rest)
        (c :: ds, r)
      else ([c], '_' :: d :: rest)
    else ([], c :: '_' :: d :: rest)
  | c :: rest =>
    if isDigit c then
      let (ds, r) := digitRun isDigit rest
      (c :: ds, r)
    else ([], c :: rest)
  | [] => ([], [])

/-- The digits in front, of which there must be some. -/
def digits? (isDigit : Char → Bool) (s : List Char) : Option (List Char × List Char) :=
  match digitRun isDigit s with
  | ([], _) => none
  | r => some r

def numberOf (base : Nat) (digits : List Char) : Nat :=
  digits.foldl (fun n c => base * n + (Json.Token.hexDigit? c).getD 0) 0

/-- Whether a sign in front is a minus, and what follows the sign. -/
def sign : List Char → Bool × List Char
  | '-' :: rest => (true, rest)
  | '+' :: rest => (false, rest)
  | rest => (false, rest)

/-- The digits of a whole number in base ten: a zero, or some that do not start with one. -/
def wholeDigits? : List Char → Option (List Char × List Char)
  | '0' :: rest => some (['0'], rest)
  | s => digits? Char.isDigit s

/-- The number of integers of 64 bits on either side of zero. -/
def integerLimit : Nat := Nat.pow 2 63

/-- The integer, if it has 64 bits. -/
def integerOf? (negative : Bool) (n : Nat) : Option Value :=
  if negative then if n ≤ integerLimit then some (.integer (-n)) else none
  else if n < integerLimit then some (.integer n) else none

/-- An integer in a base other than ten, after the two characters that name the base. -/
def based? (base : Nat) (isDigit : Char → Bool) (s : List Char) : Option (Value × List Char) := do
  let (digits, rest) ← digits? isDigit s
  return (← integerOf? false (numberOf base digits), rest)

def integer? : List Char → Option (Value × List Char)
  | '0' :: 'x' :: rest => based? 16 (fun c => (Json.Token.hexDigit? c).isSome) rest
  | '0' :: 'o' :: rest => based? 8 (fun c => '0' ≤ c && c ≤ '7') rest
  | '0' :: 'b' :: rest => based? 2 (fun c => c = '0' || c = '1') rest
  | s => do
    let (negative, s') := sign s
    let (digits, rest) ← wholeDigits? s'
    return (← integerOf? negative (numberOf 10 digits), rest)

/-- The least number that a float of 64 bits rounds to infinity, half way from the largest one to
the next power of two. -/
def floatLimit : Nat := (Nat.pow 2 54 - 1) * Nat.pow 2 970

/-- Whether `m · 10 ^ (e - f)` is too large for a float. Far from the limit, which has 309 digits,
the number of digits decides. -/
def overflows (m e f : Nat) : Bool :=
  if m = 0 then false
  else
    let size := (Nat.toDigits 10 m).length + e
    if size > f + 320 then true
    else if size < f + 300 then false
    else floatLimit * Nat.pow 10 f ≤ m * Nat.pow 10 e

/-- The parts of a float after its whole part: the digits of the fraction, whether the exponent is
negative, and its digits. -/
structure FloatTail where
  fraction : List Char := []
  negative : Bool := false
  exponent : List Char := []

def exponent? (fraction : List Char) : List Char → Option (FloatTail × List Char)
  | c :: rest =>
    if c = 'e' || c = 'E' then do
      let (negative, s) := sign rest
      let (digits, rest') ← digits? Char.isDigit s
      return ({ fraction, negative, exponent := digits }, rest')
    else none
  | [] => none

/-- What makes a number a float: a fraction, an exponent, or both. -/
def floatTail? : List Char → Option (FloatTail × List Char)
  | '.' :: rest => do
    let (digits, rest') ← digits? Char.isDigit rest
    match rest' with
    | c :: _ =>
      if c = 'e' || c = 'E' then exponent? digits rest'
      else return ({ fraction := digits }, rest')
    | [] => return ({ fraction := digits }, rest')
  | s => exponent? [] s

/-- Whether a float is too large. One far below zero is not refused. -/
def isTooLarge (negative : Bool) (whole : List Char) (tail : FloatTail) : Bool :=
  let m := numberOf 10 (whole ++ tail.fraction)
  let e := numberOf 10 tail.exponent
  !negative &&
    if tail.negative then overflows m 0 (tail.fraction.length + e)
    else overflows m e tail.fraction.length

/-- The part of `s` in front of `rest`, with which `s` ends. -/
def before (s rest : List Char) : String := String.ofList (s.take (s.length - rest.length))

def float? (s : List Char) : Option (Value × List Char) :=
  let (negative, unsigned) := sign s
  match unsigned with
  | 'i' :: 'n' :: 'f' :: rest => some (.float (before s rest), rest)
  | 'n' :: 'a' :: 'n' :: rest => some (.float (before s rest), rest)
  | _ => do
    let (whole, s') ← wholeDigits? unsigned
    let (tail, rest) ← floatTail? s'
    if isTooLarge negative whole tail then none else return (.float (before s rest), rest)

end ApiBalancer.Toml
