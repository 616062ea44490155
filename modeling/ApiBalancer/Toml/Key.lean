import ApiBalancer.Toml.Quoted

/-!
# Keys in TOML

A key is a bare word or a string on one line. A path has several keys with dots between them.
-/

namespace ApiBalancer.Toml

/-- The characters of a bare key. -/
def isBare (c : Char) : Bool := c.isAlphanum || c = '_' || c = '-'

def key? : List Char → Option (String × List Char)
  | '"' :: rest => (basic? rest).map fun r => (String.ofList r.1, r.2)
  | '\'' :: rest => (literal? rest).map fun r => (String.ofList r.1, r.2)
  | s =>
    if (s.takeWhile isBare).isEmpty then none
    else some (String.ofList (s.takeWhile isBare), s.dropWhile isBare)

/-- The keys of a path, with the blanks around each of them. -/
def keys? (s : List Char) : Option (List String × List Char) := do
  let (key, rest) ← key? (skipBlanks s)
  match skipBlanks rest with
  | '.' :: rest' =>
    if _h : rest'.length < s.length then (keys? rest').map fun r => (key :: r.1, r.2) else none
  | rest' => some ([key], rest')
termination_by s.length

/-- The number of keys that is too many for a path. -/
def pathLimit : Nat := 80

def path? (s : List Char) : Option (List String × List Char) :=
  (keys? s).filter fun r => r.1.length < pathLimit

end ApiBalancer.Toml
