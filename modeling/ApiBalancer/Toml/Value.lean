/-!
# TOML values

What stands behind a key of a TOML document. Numbers that are no integers, and dates and times, are
kept as they are written.
-/

namespace ApiBalancer.Toml

inductive Value where
  | string (s : String)
  | integer (n : Int)
  | float (written : String)
  | boolean (b : Bool)
  | dateTime (written : String)
  | array (items : List Value)
  | table (entries : List (String × Value))

namespace Value

def text? : Value → Option String
  | string s => some s
  | _ => none

def bool? : Value → Option Bool
  | boolean b => some b
  | _ => none

end Value

/-- The blanks that separate the parts of a line. -/
def isBlank (c : Char) : Bool := c = ' ' || c = '\t'

/-- Drops the blanks in front. -/
def skipBlanks (s : List Char) : List Char := s.dropWhile isBlank

/-- The characters of comments and strings: all but control characters below U+0080, of which the
tab alone is allowed. -/
def isPlain (c : Char) : Bool := c = '\t' || (0x20 ≤ c.toNat && c.toNat != 0x7F)

end ApiBalancer.Toml
