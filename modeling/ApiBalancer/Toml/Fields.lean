import ApiBalancer.Toml.Value

/-!
# Records in TOML

How a record is found in a TOML value: by the names of its fields, or by their order.
-/

namespace ApiBalancer.Toml

variable {α : Type}

/-- The values of a record's fields, as far as they are given: a table gives them by name, an array
in their order. A date gives none. -/
def fields? (names : List String) : Value → Option (List (Option Value))
  | .table entries => some (names.map fun name => entries.lookup name)
  | .array items =>
    some ((items.take names.length).map some ++
      List.replicate (names.length - items.length) none)
  | .dateTime _ => some (names.map fun _ => none)
  | _ => none

/-- A field that may be left out. -/
def orDefault (read? : Value → Option α) (default : α) : Option Value → Option α
  | some v => read? v
  | none => some default

end ApiBalancer.Toml
