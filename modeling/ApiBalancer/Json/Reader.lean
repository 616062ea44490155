import ApiBalancer.Json.Basic
import ApiBalancer.Json.Token

/-!
# Reading JSON

The tokens of a text are taken one by one. What has been opened and not yet closed stands on a
stack, so the depth of a text has no limit.
-/

namespace ApiBalancer.Json

/-- An array or object around the value that is being read, with what it holds so far, the last
first. -/
inductive Frame where
  | items (read : List Json)
  | member (read : List (Option String × Json)) (key : Option String)

/-- What the next token may be. -/
inductive Due where
  | value
  /-- The first item of an array, or its end. -/
  | firstItem
  /-- A comma after an item of an array, or the array's end. -/
  | nextItem (read : List Json)
  /-- The first key of an object, or its end. -/
  | firstKey
  | key (read : List (Option String × Json))
  | colon (read : List (Option String × Json)) (key : Option String)
  /-- A comma after a member of an object, or the object's end. -/
  | nextMember (read : List (Option String × Json))
  /-- Nothing: the value is complete. -/
  | nothing (value : Json)

/-- A text that has been read up to some token. -/
structure Reading where
  stack : List Frame := []
  due : Due := .value

namespace Reading

/-- The reading once a value is complete. -/
def complete (value : Json) : List Frame → Reading
  | [] => ⟨[], .nothing value⟩
  | .items read :: stack => ⟨stack, .nextItem (value :: read)⟩
  | .member read key :: stack => ⟨stack, .nextMember ((key, value) :: read)⟩

def start? (stack : List Frame) : Token → Option Reading
  | .null => some (complete .null stack)
  | .bool b => some (complete (.bool b) stack)
  | .number written => some (complete (.number written) stack)
  | .string text => some (complete (.string text) stack)
  | .openArray => some ⟨stack, .firstItem⟩
  | .openObject => some ⟨stack, .firstKey⟩
  | _ => none

def take? (r : Reading) (t : Token) : Option Reading :=
  match r.due, t with
  | .value, t => start? r.stack t
  | .firstItem, .closeArray => some (complete (.array []) r.stack)
  | .firstItem, t => start? (.items [] :: r.stack) t
  | .nextItem read, .comma => some ⟨.items read :: r.stack, .value⟩
  | .nextItem read, .closeArray => some (complete (.array read.reverse) r.stack)
  | .firstKey, .closeObject => some (complete (.object []) r.stack)
  | .firstKey, .string key => some ⟨r.stack, .colon [] key⟩
  | .key read, .string key => some ⟨r.stack, .colon read key⟩
  | .colon read key, .colon => some ⟨.member read key :: r.stack, .value⟩
  | .nextMember read, .comma => some ⟨r.stack, .key read⟩
  | .nextMember read, .closeObject => some (complete (.object read.reverse) r.stack)
  | _, _ => none

def takeAll? (r : Reading) : List Token → Option Reading
  | [] => some r
  | t :: ts => (r.take? t).bind fun r' => r'.takeAll? ts

def value? (r : Reading) : Option Json :=
  match r.due with
  | .nothing value => some value
  | _ => none

end Reading

def ofTokens? (ts : List Token) : Option Json :=
  (({} : Reading).takeAll? ts).bind Reading.value?

def parse? (s : String) : Option Json :=
  (Token.scan? s.toList).bind ofTokens?

end ApiBalancer.Json
