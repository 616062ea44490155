/-!
# JSON values

A JSON text denotes a `Json`. Numbers are kept as they are written, and the members of an object in
their order, with repeated keys.
-/

namespace ApiBalancer

/-- A JSON value. A string or a key denotes no text if one of its escapes names half of a surrogate
pair without the other half. -/
inductive Json where
  | null
  | bool (b : Bool)
  | number (written : String)
  | string (text : Option String)
  | array (items : List Json)
  | object (members : List (Option String × Json))

namespace Json

def ofText (s : String) : Json := .string (some s)

/-- An object, from its keys and values in their order. -/
def ofMembers (members : List (String × Json)) : Json :=
  .object (members.map fun m => (some m.1, m.2))

def text? : Json → Option String
  | string text => text
  | _ => none

def bool? : Json → Option Bool
  | bool b => some b
  | _ => none

end Json

end ApiBalancer
