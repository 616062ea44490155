/-!
# The tokens of a JSON text

A JSON text is a sequence of brackets, colons, commas, strings, numbers and three words, with white
space between them.
-/

namespace ApiBalancer.Json

inductive Token where
  | openArray
  | closeArray
  | openObject
  | closeObject
  | colon
  | comma
  | null
  | bool (b : Bool)
  | number (written : String)
  | string (text : Option String)
deriving DecidableEq, Repr

namespace Token

def isSpace (c : Char) : Bool := c = ' ' || c = '\t' || c = '\n' || c = '\r'

/-- The token that a single character is. -/
def ofChar? : Char → Option Token
  | '[' => some openArray
  | ']' => some closeArray
  | '{' => some openObject
  | '}' => some closeObject
  | ':' => some colon
  | ',' => some comma
  | _ => none

def hexDigit? (c : Char) : Option Nat :=
  if '0' ≤ c ∧ c ≤ '9' then some (c.toNat - '0'.toNat)
  else if 'a' ≤ c ∧ c ≤ 'f' then some (c.toNat - 'a'.toNat + 10)
  else if 'A' ≤ c ∧ c ≤ 'F' then some (c.toNat - 'A'.toNat + 10)
  else none

/-- The number that four hexadecimal digits denote. -/
def hexNumber? (a b c d : Char) : Option Nat := do
  return (((← hexDigit? a) * 16 + (← hexDigit? b)) * 16 + (← hexDigit? c)) * 16 + (← hexDigit? d)

/-- The code unit that a backslash and one more character stand for. -/
def escaped? : Char → Option Nat
  | '"' => some 0x22
  | '\\' => some 0x5C
  | '/' => some 0x2F
  | 'b' => some 0x08
  | 'f' => some 0x0C
  | 'n' => some 0x0A
  | 'r' => some 0x0D
  | 't' => some 0x09
  | _ => none

/-- Reads a string after its opening quote. A character outside escapes counts as one unit with its
code point, an escape by number as the unit that it names. -/
def units? : List Char → Option (List Nat × List Char)
  | [] => none
  | '"' :: rest => some ([], rest)
  | '\\' :: 'u' :: a :: b :: c :: d :: rest => do
    let u ← hexNumber? a b c d
    let (us, rest') ← units? rest
    return (u :: us, rest')
  | '\\' :: e :: rest => do
    let u ← escaped? e
    let (us, rest') ← units? rest
    return (u :: us, rest')
  | c :: rest =>
    if c.toNat < 0x20 then none
    else do
      let (us, rest') ← units? rest
      return (c.toNat :: us, rest')

theorem length_lt_of_units? {s rest : List Char} {us : List Nat}
    (h : units? s = some (us, rest)) : rest.length < s.length := by
  fun_induction units? s generalizing us rest with
  | case1 => simp at h
  | case2 rest' =>
    simp only [Option.some.injEq, Prod.mk.injEq] at h
    simp [← h.2]
  | case3 a b c d rest' ih =>
    simp only [Option.bind_eq_bind, Option.bind_eq_some_iff, Option.pure_def, Option.some.injEq,
      Prod.mk.injEq] at h
    obtain ⟨_, _, ⟨_, _⟩, h', _, rfl⟩ := h
    have := ih h'
    simp only [List.length_cons]
    omega
  | case4 e rest' _ ih =>
    simp only [Option.bind_eq_bind, Option.bind_eq_some_iff, Option.pure_def, Option.some.injEq,
      Prod.mk.injEq] at h
    obtain ⟨_, _, ⟨_, _⟩, h', _, rfl⟩ := h
    have := ih h'
    simp only [List.length_cons]
    omega
  | case5 => simp at h
  | case6 c rest' _ _ _ _ ih =>
    simp only [Option.bind_eq_bind, Option.bind_eq_some_iff, Option.pure_def, Option.some.injEq,
      Prod.mk.injEq] at h
    obtain ⟨⟨_, _⟩, h', _, rfl⟩ := h
    have := ih h'
    simp only [List.length_cons]
    omega

/-- Whether a unit is the first half of a surrogate pair. -/
def isHigh (u : Nat) : Bool := 0xD800 ≤ u && u < 0xDC00

/-- Whether a unit is the second half of a surrogate pair. -/
def isLow (u : Nat) : Bool := 0xDC00 ≤ u && u < 0xE000

/-- The text that units denote, unless half a pair stands alone. -/
def textOfUnits? : List Nat → Option (List Char)
  | [] => some []
  | u :: rest =>
    if isHigh u then
      match rest with
      | v :: rest' =>
        if isLow v then
          (textOfUnits? rest').map
            (Char.ofNat (0x10000 + (u - 0xD800) * 0x400 + (v - 0xDC00)) :: ·)
        else none
      | [] => none
    else if isLow u then none
    else (textOfUnits? rest).map (Char.ofNat u :: ·)

/-! ### Numbers and words -/

/-- What follows the digits of a number's exponent must be nothing, and there must be digits. -/
def isDigits (s : List Char) : Bool := !s.isEmpty && s.all Char.isDigit

/-- Whether a text can be the exponent at a number's end, or nothing. -/
def isExponent : List Char → Bool
  | [] => true
  | e :: rest =>
    (e = 'e' || e = 'E') &&
      match rest with
      | '+' :: digits | '-' :: digits => isDigits digits
      | digits => isDigits digits

/-- Whether a text can follow the whole part of a number. -/
def isFraction : List Char → Bool
  | '.' :: rest =>
    !(rest.takeWhile Char.isDigit).isEmpty && isExponent (rest.dropWhile Char.isDigit)
  | rest => isExponent rest

def isUnsigned : List Char → Bool
  | '0' :: rest => isFraction rest
  | c :: rest => c.isDigit && isFraction (rest.dropWhile Char.isDigit)
  | [] => false

def isNumber : List Char → Bool
  | '-' :: rest => isUnsigned rest
  | s => isUnsigned s

/-- The characters that can stand in a number or a word. -/
def isWordChar (c : Char) : Bool := c.isAlphanum || c = '+' || c = '-' || c = '.'

/-- The token that a number or word is. -/
def ofWord? (word : List Char) : Option Token :=
  if word = "null".toList then some null
  else if word = "true".toList then some (bool true)
  else if word = "false".toList then some (bool false)
  else if isNumber word then some (number (String.ofList word))
  else none

def scan? (s : List Char) : Option (List Token) :=
  match s with
  | [] => some []
  | c :: rest =>
    if isSpace c then scan? rest
    else
      match ofChar? c with
      | some t => (scan? rest).map (t :: ·)
      | none =>
        if c = '"' then
          match h : units? rest with
          | some (us, rest') =>
            have := length_lt_of_units? h
            (scan? rest').map (string ((textOfUnits? us).map String.ofList) :: ·)
          | none => none
        else
          match ofWord? (c :: rest.takeWhile isWordChar) with
          | some t =>
            have := (List.dropWhile_sublist isWordChar (l := rest)).length_le
            (scan? (rest.dropWhile isWordChar)).map (t :: ·)
          | none => none
termination_by s.length
decreasing_by all_goals simp only [List.length_cons]; omega

end Token

end ApiBalancer.Json
