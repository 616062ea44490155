import ApiBalancer.Toml.Value

/-!
# Tables under construction

The lines of a TOML document each add something to one tree of tables. What a line may add depends
on how the tables that it passes came about: a table that a header or an inline table has defined is
not extended by dotted keys, a table that dotted keys have made gets no header, and an array of
tables grows at its end only.
-/

namespace ApiBalancer.Toml

inductive Origin where
  | header
  /-- Because a header names a table inside it. -/
  | implied
  | dotted
deriving DecidableEq, Repr

/-- What stands at a key of a table under construction. -/
inductive Node where
  | value (v : Value)
  | table (origin : Origin) (entries : List (String × Node))
  /-- An array of tables, of which only the last is still under construction. -/
  | tables (earlier : List (List (String × Node))) (last : List (String × Node))

/-- The keys of a table under construction, with what stands there. -/
abbrev Entries := List (String × Node)

namespace Entries

/-- Puts `node` at a key in place of what stands there. -/
def replace (entries : Entries) (key : String) (node : Node) : Entries :=
  entries.map fun e => if e.1 = key then (key, node) else e

/-- Puts a value at a dotted key. Tables that are missing on the way are made; the table that gets
the value must have come about in this way too. -/
def assign? (value : Value) : List String → Entries → Option Entries
  | [], _ => none
  | [key], entries =>
    match entries.lookup key with
    | none => some (entries ++ [(key, .value value)])
    | some _ => none
  | key :: path, entries =>
    match entries.lookup key with
    | none => (assign? value path []).map fun inner => entries ++ [(key, .table .dotted inner)]
    | some (.table origin inner) =>
      if origin = .header ∨ (origin = .implied ∧ path.length = 1) then none
      else (assign? value path inner).map fun inner => entries.replace key (.table origin inner)
    | some (.tables earlier last) =>
      if path.length = 1 then none
      else (assign? value path last).map fun last => entries.replace key (.tables earlier last)
    | some (.value _) => none

/-- Changes the table at the path of a header. Tables that are missing on the way are made; of an
array of tables the last is taken. -/
def within? (change : Entries → Option Entries) : List String → Entries → Option Entries
  | [], entries => change entries
  | key :: path, entries =>
    match entries.lookup key with
    | none =>
      (within? change path []).map fun inner => entries ++ [(key, .table .implied inner)]
    | some (.table origin inner) =>
      (within? change path inner).map fun inner => entries.replace key (.table origin inner)
    | some (.tables earlier last) =>
      (within? change path last).map fun last => entries.replace key (.tables earlier last)
    | some (.value _) => none

def startTable? (key : String) (entries : Entries) : Option Entries :=
  match entries.lookup key with
  | none => some (entries ++ [(key, .table .header [])])
  | some (.table .implied inner) => some (entries.replace key (.table .header inner))
  | some _ => none

def startElement? (key : String) (entries : Entries) : Option Entries :=
  match entries.lookup key with
  | none => some (entries ++ [(key, .tables [] [])])
  | some (.tables earlier last) => some (entries.replace key (.tables (earlier ++ [last]) []))
  | some _ => none

/-- Applies a change to the table around the one that a path names, with the last key of the
path. -/
def around? (change : String → Entries → Option Entries) (path : List String)
    (entries : Entries) : Option Entries :=
  match path.getLast? with
  | some key => within? (change key) path.dropLast entries
  | none => none

end Entries

mutual

def Node.toValue : Node → Value
  | .value v => v
  | .table _ entries => .table (Entries.toValues entries)
  | .tables earlier last => .array (Entries.toTables earlier ++ [.table (Entries.toValues last)])

def Entries.toValues : List (String × Node) → List (String × Value)
  | [] => []
  | (key, node) :: rest => (key, node.toValue) :: Entries.toValues rest

def Entries.toTables : List (List (String × Node)) → List Value
  | [] => []
  | entries :: rest => .table (Entries.toValues entries) :: Entries.toTables rest

end

/-- The table that paths with their values make, one after another. -/
def tableOf? (members : List (List String × Value)) : Option Value :=
  (members.foldlM (fun (entries : Entries) m => entries.assign? m.2 m.1) []).map fun entries =>
    .table (Entries.toValues entries)

/-- What a line of a document adds. -/
inductive Statement where
  | table (path : List String)
  | element (path : List String)
  | assign (path : List String) (value : Value)

/-- A document of which some lines have been read. -/
structure Draft where
  /-- The table of the last header, to which keys are added. -/
  current : List String := []
  entries : Entries := []

def Draft.add? (d : Draft) : Statement → Option Draft
  | .table path =>
    (Entries.around? Entries.startTable? path d.entries).map fun entries => ⟨path, entries⟩
  | .element path =>
    (Entries.around? Entries.startElement? path d.entries).map fun entries => ⟨path, entries⟩
  | .assign path value =>
    (Entries.within? (Entries.assign? value path) d.current d.entries).map fun entries =>
      { d with entries }

/-- The table that the lines of a document make. -/
def ofStatements? (statements : List Statement) : Option Value :=
  (statements.foldlM Draft.add? {}).map fun d => .table (Entries.toValues d.entries)

end ApiBalancer.Toml
