import ApiBalancer.Json.Basic
import ApiBalancer.NameMap

/-!
# Records, maps and names in JSON

How the values of a program are found in a JSON value: a record by the names of its fields or by
their order, a map by its keys, and one of several names by itself.
-/

namespace ApiBalancer.Json

variable {α β : Type}

/-- The members of an object, if each key is a text. -/
def keyed? (members : List (Option String × Json)) : Option (List (String × Json)) :=
  members.mapM fun m => m.1.map (·, m.2)

/-- The value at a key, or nothing if there is none; a repeated key is refused. -/
def atMostOnce? (members : List (String × Json)) (name : String) : Option (Option Json) :=
  match members.filter (·.1 == name) with
  | [] => some none
  | [m] => some (some m.2)
  | _ => none

/-- The values of a record's fields, as far as they are given. An object gives them by name, in any
order and among other members; an array gives the first ones in the order of the fields. -/
def fields? (names : List String) : Json → Option (List (Option Json))
  | object members => (keyed? members).bind fun keyed => names.mapM (atMostOnce? keyed)
  | array items =>
    if items.length ≤ names.length then
      some (items.map some ++ List.replicate (names.length - items.length) none)
    else none
  | _ => none

/-- A field that may be left out. -/
def orDefault (read? : Json → Option α) (default : α) : Option Json → Option α
  | some j => read? j
  | none => some default

/-- An optional value; nothing is written as `null`. -/
def optional? (read? : Json → Option α) : Json → Option (Option α)
  | null => some none
  | j => (read? j).map some

/-- A map with values of one kind; of a repeated key the last value counts. -/
def mapOf? (read? : Json → Option β) : Json → Option (NameMap β)
  | object members => do
    let keyed ← keyed? members
    return NameMap.ofList (← keyed.mapM fun m => (read? m.2).map (m.1, ·))
  | _ => none

def ofMap (write : β → Json) (m : NameMap β) : Json :=
  .ofMembers (m.toList.map fun e => (e.1, write e.2))

/-- One of several names: a string, or an object with the name as its only key and `null` there. -/
def name? : Json → Option String
  | string text => text
  | object [(key, null)] => key
  | _ => none

end ApiBalancer.Json
