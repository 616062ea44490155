import ApiBalancer.Toml.Number

/-!
# Dates and times in TOML

A date, a time of day, or a date and a time; with both there may be an offset from universal time.
-/

namespace ApiBalancer.Toml

/-- A number of exactly `n` digits within bounds. -/
def fixed? (n low high : Nat) (s : List Char) : Option (Nat × List Char) :=
  let digits := s.take n
  let value := numberOf 10 digits
  if digits.length = n ∧ digits.all Char.isDigit ∧ low ≤ value ∧ value ≤ high then
    some (value, s.drop n)
  else none

def expect? (c : Char) : List Char → Option (List Char)
  | d :: rest => if d = c then some rest else none
  | [] => none

def daysOf (year month : Nat) : Nat :=
  if month = 2 then
    if year % 4 = 0 ∧ (year % 100 ≠ 0 ∨ year % 400 = 0) then 29 else 28
  else if month = 4 ∨ month = 6 ∨ month = 9 ∨ month = 11 then 30
  else 31

def date? (s : List Char) : Option (List Char) := do
  let (year, s) ← fixed? 4 0 9999 s
  let s ← expect? '-' s
  let (month, s) ← fixed? 2 1 12 s
  let s ← expect? '-' s
  let (_, s) ← fixed? 2 1 (daysOf year month) s
  return s

/-- Reads past the fraction of a second, if there is one. -/
def fraction? : List Char → Option (List Char)
  | '.' :: rest =>
    if (rest.takeWhile Char.isDigit).isEmpty then none
    else some (rest.dropWhile Char.isDigit)
  | rest => some rest

/-- Reads past a time of day. A minute may have a leap second. -/
def time? (s : List Char) : Option (List Char) := do
  let (_, s) ← fixed? 2 0 23 s
  let s ← expect? ':' s
  let (_, s) ← fixed? 2 0 59 s
  let s ← expect? ':' s
  let (_, s) ← fixed? 2 0 60 s
  fraction? s

/-- Reads past an offset, if there is one. -/
def offset? : List Char → Option (List Char)
  | c :: rest =>
    if c = 'Z' || c = 'z' then some rest
    else if c = '+' || c = '-' then do
      let (_, s) ← fixed? 2 0 23 rest
      let s ← expect? ':' s
      let (_, s) ← fixed? 2 0 59 s
      return s
    else some (c :: rest)
  | [] => some []

/-- Reads past a date with the time and the offset that may follow it. -/
def dateAndTime? (s : List Char) : Option (List Char) := do
  let afterDate ← date? s
  match afterDate with
  | c :: rest =>
    if c = 'T' || c = 't' || c = ' ' then
      match time? rest with
      | some afterTime => offset? afterTime
      | none => return afterDate
    else return afterDate
  | [] => return []

def dateTime? (s : List Char) : Option (Value × List Char) :=
  ((dateAndTime? s).or (time? s)).map fun rest => (.dateTime (before s rest), rest)

end ApiBalancer.Toml
