import ApiBalancer.NameMap
import ApiBalancer.Toml.Table
import Mathlib.Data.List.Basic

/-!
# What the lines of a TOML document define

Each line of a document defines one thing: a header defines a table, and a key gives a value to the
keys of the last header and its own. Such a definition is itself a table (`Statement.definition`),
and the table of a document is made of its definitions, each joined into what the ones before it
have made (`Joined`, `Made`). This says nothing about how a table is constructed; the one under
construction is made in this way (`made_of_ofStatements?`). What stands at the end of some keys is
then what one of the definitions has there, whatever their order (`Made.outlineAt?_empty`).
-/

namespace ApiBalancer.Toml

namespace Value

/-- What keys lead to, one after another, through tables. -/
def follow? : Value → List String → Option Value
  | v, [] => some v
  | .table entries, key :: path => (entries.lookup key).bind fun v => v.follow? path
  | _, _ :: _ => none

/-- What a value is, apart from what it holds. -/
def outline : Value → Value
  | .table _ | .array _ => .table []
  | v => v

/-- The outline of what keys lead to. -/
def outlineAt? (v : Value) (path : List String) : Option Value := (v.follow? path).map outline

/-- Whether keys pass no array on their way. -/
def Open (v : Value) (path : List String) : Prop :=
  ∀ q r, path = q ++ r → r ≠ [] → ∀ items, v.follow? q ≠ some (.array items)

variable {entries : List (String × Value)} {key : String} {path : List String} {v : Value}

@[simp] lemma follow?_nil (v : Value) : v.follow? [] = some v := by
  cases v <;> rfl

@[simp] lemma follow?_table_cons (entries : List (String × Value)) (key : String)
    (path : List String) :
    (table entries).follow? (key :: path) =
      (entries.lookup key).bind fun v => v.follow? path := rfl

@[simp] lemma outline_table (entries : List (String × Value)) :
    (table entries).outline = table [] := rfl

@[simp] lemma outline_array (items : List Value) : (array items).outline = table [] := rfl

@[simp] lemma outlineAt?_nil (v : Value) : v.outlineAt? [] = some v.outline := by
  rw [outlineAt?, follow?_nil, Option.map_some]

lemma outlineAt?_table_cons (entries : List (String × Value)) (key : String)
    (path : List String) :
    (table entries).outlineAt? (key :: path) =
      (entries.lookup key).bind fun v => v.outlineAt? path := by
  rw [outlineAt?, follow?_table_cons, Option.map_bind]
  rfl

lemma outlineAt?_array_cons (items : List Value) (key : String) (path : List String) :
    (array items).outlineAt? (key :: path) = none := rfl

lemma outlineAt?_empty (key : String) (path : List String) :
    (table []).outlineAt? (key :: path) = none := rfl

lemma Open.tail (h : (table entries).Open (key :: path)) (hv : entries.lookup key = some v) :
    v.Open path := by
  intro q r hpath hr items hq
  apply h (key :: q) r (by rw [hpath, List.cons_append]) hr items
  rw [follow?_table_cons, hv, Option.bind_some, hq]

end Value

/-- The table that has nothing but a value at the end of some keys. -/
def nested : List String → Value → Value
  | [], v => v
  | key :: path, v => .table [(key, nested path v)]

lemma nested_append (path path' : List String) (v : Value) :
    nested (path ++ path') v = nested path (nested path' v) := by
  induction path with
  | nil => rfl
  | cons key path ih => rw [List.cons_append, nested, ih, nested]

lemma lookup_single {β : Type} (key k : String) (v : β) :
    [(key, v)].lookup k = if k = key then some v else none := by
  rw [List.lookup_cons]
  by_cases h : k = key
  · rw [if_pos h, beq_iff_eq.2 h]
  · rw [if_neg h, beq_eq_false_iff_ne.2 h, List.lookup_nil]

/-- Puts a value at a key, in place of what stands there or behind all else. -/
def setEntry {β : Type} (entries : List (String × β)) (key : String) (v : β) : List (String × β) :=
  if (entries.lookup key).isSome then entries.map fun e => if e.1 = key then (key, v) else e
  else entries ++ [(key, v)]

lemma lookup_setEntry {β : Type} (entries : List (String × β)) (key k : String) (v : β) :
    (setEntry entries key v).lookup k = if k = key then some v else entries.lookup k := by
  have hmap : ∀ entries : List (String × β),
      (entries.map fun e => if e.1 = key then (key, v) else e).lookup k =
        if k = key then (entries.lookup k).map fun _ => v else entries.lookup k := by
    intro entries
    induction entries with
    | nil => simp
    | cons e entries ih =>
      rw [List.map_cons, List.lookup_cons, List.lookup_cons, ih]
      by_cases he : e.1 = key <;> by_cases hk : k = key
      · simp [he, hk]
      · simp [he, hk, beq_eq_false_iff_ne.2 hk]
      · simp [he, hk, beq_eq_false_iff_ne.2 (Ne.symm he)]
      · simp [he, hk]
  unfold setEntry
  by_cases hkey : (entries.lookup key).isSome
  · rw [if_pos hkey, hmap]
    by_cases hk : k = key
    · obtain ⟨w, hw⟩ := Option.isSome_iff_exists.1 hkey
      rw [if_pos hk, if_pos hk, hk, hw, Option.map_some]
    · rw [if_neg hk, if_neg hk]
  · have hnone : entries.lookup key = none := Option.not_isSome_iff_eq_none.1 hkey
    rw [if_neg hkey, List.lookup_append, lookup_single]
    by_cases hk : k = key
    · rw [if_pos hk, if_pos hk, hk, hnone, Option.none_or]
    · rw [if_neg hk, if_neg hk, Option.or_none]

/-- `after` is what stands somewhere once `part` is joined into what stood there before. In an
array the part goes into the last table, or is the next one. There is no way to join two values, or
a value and a table. -/
inductive Joined : (before : Option Value) → (part after : Value) → Prop where
  | fresh (part : Value) : Joined none part part
  | entry {entries : List (String × Value)} {key : String} {part after : Value}
      (joined : Joined (entries.lookup key) part after) :
      Joined (some (.table entries)) (.table [(key, part)]) (.table (setEntry entries key after))
  | header (entries : List (String × Value)) :
      Joined (some (.table entries)) (.table []) (.table entries)
  | last {items : List Value} {item : Value} {key : String} {part after : Value}
      (hlast : items.getLast? = some item)
      (joined : Joined (some item) (.table [(key, part)]) after) :
      Joined (some (.array items)) (.table [(key, part)]) (.array (items.dropLast ++ [after]))
  | next (items parts : List Value) :
      Joined (some (.array items)) (.array parts) (.array (items ++ parts))

namespace Joined

variable {before : Option Value} {part after after' x : Value} {path : List String}

lemma unique (h : Joined before part after) (h' : Joined before part after') : after = after' := by
  induction h generalizing after' with
  | fresh part =>
    cases h'
    rfl
  | entry joined ih =>
    cases h' with
    | entry joined' => rw [ih joined']
  | header entries =>
    cases h'
    rfl
  | last hlast joined ih =>
    cases h' with
    | last hlast' joined' =>
      cases hlast.symm.trans hlast'
      rw [ih joined']
  | next items parts =>
    cases h'
    rfl

lemma exists_array (h : Joined before part after) {items : List Value}
    (hbefore : (before.bind fun v => v.follow? path) = some (.array items)) :
    ∃ items', after.follow? path = some (.array items') := by
  induction h generalizing path with
  | fresh part => cases hbefore
  | @entry entries key part after _ ih =>
    cases path with
    | nil => cases hbefore
    | cons k path =>
      rw [Option.bind_some, Value.follow?_table_cons] at hbefore
      rw [Value.follow?_table_cons, lookup_setEntry]
      by_cases hk : k = key
      · subst hk
        rw [if_pos rfl, Option.bind_some]
        exact ih hbefore
      · rw [if_neg hk]
        exact ⟨items, hbefore⟩
  | header entries => exact ⟨items, hbefore⟩
  | last | next =>
    cases path with
    | nil => exact ⟨_, rfl⟩
    | cons k path => cases hbefore

lemma open_before (h : Joined (some x) part after) (hopen : after.Open path) : x.Open path := by
  intro q r hpath hr items hq
  have hbefore : ((some x).bind fun v => v.follow? q) = some (.array items) := hq
  obtain ⟨items', hafter⟩ := h.exists_array hbefore
  exact hopen q r hpath hr items' hafter

/-- What keys lead to after a part has been joined is what they lead to before, or in the part. -/
lemma outlineAt?_iff (h : Joined before part after)
    (hopen : ∀ v, before = some v → v.Open path) :
    after.outlineAt? path = some x ↔
      (before.bind fun v => v.outlineAt? path) = some x ∨ part.outlineAt? path = some x := by
  induction h generalizing path with
  | fresh part => simp
  | @entry entries key part after _ ih =>
    cases path with
    | nil => simp
    | cons k path =>
      rw [Option.bind_some, Value.outlineAt?_table_cons, Value.outlineAt?_table_cons,
        Value.outlineAt?_table_cons, lookup_single, lookup_setEntry]
      by_cases hk : k = key
      · subst hk
        rw [if_pos rfl, if_pos rfl, Option.bind_some, Option.bind_some]
        exact ih fun v hv => (hopen _ rfl).tail hv
      · rw [if_neg hk, if_neg hk, Option.bind_none, or_iff_left (by simp)]
  | header entries =>
    cases path with
    | nil => simp
    | cons k path => simp [Value.outlineAt?_empty]
  | @last items =>
    cases path with
    | nil => simp
    | cons k path =>
      exact absurd rfl (hopen _ rfl [] (k :: path) rfl (List.cons_ne_nil k path) items)
  | next items parts =>
    cases path with
    | nil => simp
    | cons k path => simp [Value.outlineAt?_array_cons]

end Joined

/-- A table made of parts, one joined in after another. -/
inductive Made : (before : Value) → (parts : List Value) → (after : Value) → Prop where
  | nil (v : Value) : Made v [] v
  | cons {v w after part : Value} {parts : List Value} (joined : Joined (some v) part w)
      (made : Made w parts after) : Made v (part :: parts) after

namespace Made

variable {before after after' x : Value} {parts : List Value} {path : List String}

lemma unique (h : Made before parts after) (h' : Made before parts after') : after = after' := by
  induction h with
  | nil v =>
    cases h'
    rfl
  | cons joined made ih =>
    cases h' with
    | cons joined' made' =>
      cases joined.unique joined'
      exact ih made'

lemma open_before (h : Made before parts after) (hopen : after.Open path) : before.Open path := by
  induction h with
  | nil v => exact hopen
  | cons joined _ ih => exact joined.open_before (ih hopen)

/-- What keys lead to is what they lead to before, or in one of the parts. -/
lemma outlineAt?_iff (h : Made before parts after) (hopen : after.Open path) :
    after.outlineAt? path = some x ↔
      before.outlineAt? path = some x ∨ ∃ part ∈ parts, part.outlineAt? path = some x := by
  induction h with
  | nil v => simp
  | @cons v w after part parts joined made ih =>
    have hv : v.Open path := joined.open_before (made.open_before hopen)
    have hjoined : w.outlineAt? path = some x ↔
        v.outlineAt? path = some x ∨ part.outlineAt? path = some x := by
      apply joined.outlineAt?_iff
      intro u hu
      rwa [← Option.some.inj hu]
    rw [ih hopen, hjoined, List.exists_mem_cons_iff, or_assoc]

/-- What keys lead to in something made of parts alone is what they lead to in one of them. -/
theorem outlineAt?_empty (h : Made (.table []) parts after) (hpath : path ≠ [])
    (hopen : after.Open path) :
    after.outlineAt? path = some x ↔ ∃ part ∈ parts, part.outlineAt? path = some x := by
  cases path with
  | nil => exact absurd rfl hpath
  | cons key path => rw [h.outlineAt?_iff hopen, Value.outlineAt?_empty, or_iff_right (by simp)]

end Made

/-- What a line defines below the keys of the last header. -/
def Statement.definition (current : List String) : Statement → Value
  | .table path => nested path (.table [])
  | .element path => nested path (.array [.table []])
  | .assign path value => nested (current ++ path) value

/-- The keys of the last header after a line. -/
def Statement.next (current : List String) : Statement → List String
  | .table path | .element path => path
  | .assign _ _ => current

/-- What some lines define, one after another. -/
def definitions (current : List String) : List Statement → List Value
  | [] => []
  | s :: statements => s.definition current :: definitions (s.next current) statements

/-! ### Tables under construction -/

/-- What stands at a key, apart from what it holds. -/
inductive Kind where
  | value
  | table (origin : Origin)
  /-- An array of tables. -/
  | tables
deriving DecidableEq

def Node.kind : Node → Kind
  | .value _ => .value
  | .table origin _ => .table origin
  | .tables _ _ => .tables

/-- What a node holds; of an array of tables only the last is still under construction. -/
def Node.inner : Node → Entries
  | .value _ => []
  | .table _ entries => entries
  | .tables _ last => last

def Node.withInner : Node → Entries → Node
  | .value v, _ => .value v
  | .table origin _, entries => .table origin entries
  | .tables earlier _, last => .tables earlier last

namespace Entries

variable {entries entries' : Entries} {key : String} {node node' : Node} {path : List String}
  {value part : Value} {change : Entries → Option Entries} {f : Option Node → Option Node}
  {blocked : Kind → Bool} {origin : Origin}

/-- Changes what stands at a key. -/
def update (key : String) (f : Option Node → Option Node) (entries : Entries) : Option Entries :=
  (f (entries.lookup key)).map (setEntry entries key)

/-- Changes what a node holds, unless it may not be passed. A missing one is made as a table. -/
def enter (blocked : Kind → Bool) (origin : Origin) (change : Entries → Option Entries) :
    Option Node → Option Node
  | none => (change []).map (.table origin)
  | some node => if blocked node.kind then none else (change node.inner).map node.withInner

/-- A value goes where nothing is. -/
def fill (value : Value) : Option Node → Option Node
  | none => some (.value value)
  | some _ => none

/-- A header starts a table, or takes over one that others imply. -/
def start : Option Node → Option Node
  | none => some (.table .header [])
  | some (.table .implied inner) => some (.table .header inner)
  | some _ => none

/-- A header of an array starts it, or its next table. -/
def startNext : Option Node → Option Node
  | none => some (.tables [] [])
  | some (.tables earlier last) => some (.tables (earlier ++ [last]) [])
  | some _ => none

/-- What a header does not pass. -/
def blocksHeader (kind : Kind) : Bool := kind = .value

/-- What dotted keys do not pass. The table that gets the value, at the last key but one, must have
been made by dotted keys. -/
def blocksDotted (isLast : Bool) : Kind → Bool
  | .value | .table .header => true
  | .table .implied | .tables => isLast
  | .table .dotted => false

lemma setEntry_of_none (h : entries.lookup key = none) :
    setEntry entries key node = entries ++ [(key, node)] := by
  rw [setEntry, h]
  rfl

lemma setEntry_of_some (h : entries.lookup key = some node') :
    setEntry entries key node = entries.replace key node := by
  rw [setEntry, h]
  rfl

lemma within?_cons (change : Entries → Option Entries) (key : String) (path : List String) :
    within? change (key :: path) =
      update key (enter blocksHeader .implied (within? change path)) := by
  funext entries
  rw [within?, update]
  cases h : entries.lookup key with
  | none => simp only [enter, Option.map_map, Function.comp_def, setEntry_of_none h]
  | some node => cases node <;>
      simp [enter, blocksHeader, Node.kind, Node.inner, Node.withInner, Function.comp_def,
        setEntry_of_some h]

lemma assign?_single (value : Value) (key : String) :
    assign? value [key] = update key (fill value) := by
  funext entries
  rw [assign?, update]
  cases h : entries.lookup key with
  | none => rw [fill, Option.map_some, setEntry_of_none h]
  | some node => rfl

lemma assign?_cons (value : Value) (key next : String) (path : List String) :
    assign? value (key :: next :: path) =
      update key (enter (blocksDotted path.isEmpty) .dotted (assign? value (next :: path))) := by
  funext entries
  rw [assign?.eq_3 _ _ _ _ (by simp), update]
  cases h : entries.lookup key with
  | none => simp only [enter, Option.map_map, Function.comp_def, setEntry_of_none h]
  | some node =>
    have hlast : (next :: path).length = 1 ↔ path.isEmpty = true := by simp
    simp only [hlast]
    cases node with
    | value v => rfl
    | table origin inner => cases origin <;> cases path.isEmpty <;>
        simp [enter, blocksDotted, Node.kind, Node.inner, Node.withInner, Function.comp_def,
          setEntry_of_some h]
    | tables earlier last => cases path.isEmpty <;>
        simp [enter, blocksDotted, Node.kind, Node.inner, Node.withInner, Function.comp_def,
          setEntry_of_some h]

lemma startTable?_eq (key : String) : startTable? key = update key start := by
  funext entries
  rw [startTable?, update]
  cases h : entries.lookup key with
  | none => rw [start, Option.map_some, setEntry_of_none h]
  | some node =>
    cases node with
    | value v | tables earlier last => rfl
    | table origin inner => cases origin <;> simp [start, setEntry_of_some h]

lemma startElement?_eq (key : String) : startElement? key = update key startNext := by
  funext entries
  rw [startElement?, update]
  cases h : entries.lookup key with
  | none => rw [startNext, Option.map_some, setEntry_of_none h]
  | some node => cases node <;> simp [startNext, setEntry_of_some h]

lemma around?_concat (change : String → Entries → Option Entries) (path : List String)
    (key : String) : around? change (path ++ [key]) = within? (change key) path := by
  funext entries
  rw [around?, List.getLast?_concat, List.dropLast_concat]

/-- The table that has been made so far. -/
def toTable (entries : Entries) : Value := .table (toValues entries)

lemma toValues_eq (entries : Entries) :
    toValues entries = entries.map fun e => (e.1, e.2.toValue) := by
  induction entries with
  | nil => rfl
  | cons e entries ih => rw [List.map_cons, ← ih, toValues]

lemma lookup_toValues (entries : Entries) (key : String) :
    (toValues entries).lookup key = (entries.lookup key).map Node.toValue := by
  rw [toValues_eq, NameMap.lookup_map]

lemma toValues_setEntry (entries : Entries) (key : String) (node : Node) :
    toValues (setEntry entries key node) = setEntry (toValues entries) key node.toValue := by
  rw [setEntry, setEntry, lookup_toValues, Option.isSome_map]
  by_cases h : (entries.lookup key).isSome
  · rw [if_pos h, if_pos h, toValues_eq, toValues_eq, List.map_map, List.map_map]
    refine List.map_congr_left fun e _ => ?_
    by_cases he : e.1 = key <;> simp [he]
  · rw [if_neg h, if_neg h, toValues_eq, toValues_eq, List.map_append]
    rfl

/-- A change of a node that joins a part into it. -/
def Places (f : Option Node → Option Node) (part : Value) : Prop :=
  ∀ node node', f node = some node' → Joined (node.map Node.toValue) part node'.toValue

/-- A change of a table that joins a part into it, which is one thing at one key. -/
structure Puts (change : Entries → Option Entries) (part : Value) : Prop where
  joined : ∀ entries entries', change entries = some entries' →
    Joined (some entries.toTable) part entries'.toTable
  single : ∃ key v, part = .table [(key, v)]

lemma Places.puts (h : Places f part) (key : String) :
    Puts (update key f) (.table [(key, part)]) where
  joined entries entries' hupdate := by
    obtain ⟨node', hnode', rfl⟩ := Option.map_eq_some_iff.1 hupdate
    rw [toTable, toTable, toValues_setEntry]
    apply Joined.entry
    rw [lookup_toValues]
    exact h _ _ hnode'
  single := ⟨key, part, rfl⟩

lemma Puts.places (h : Puts change part) (hblocked : blocked .value = true) :
    Places (enter blocked origin change) part := by
  obtain ⟨key, v, rfl⟩ := h.single
  rintro (_ | node) node' hnode'
  · obtain ⟨inner, hinner, rfl⟩ := Option.map_eq_some_iff.1 hnode'
    have hmade := h.joined _ _ hinner
    -- what is joined into an empty table is all that there is
    have hall : Joined (some (.table [])) (.table [(key, v)]) (.table [(key, v)]) :=
      @Joined.entry [] key v v (.fresh v)
    change Joined none _ (toTable inner)
    rw [hmade.unique hall]
    exact .fresh _
  · rw [enter] at hnode'
    split at hnode'
    · cases hnode'
    · next hpass =>
      obtain ⟨inner, hinner, rfl⟩ := Option.map_eq_some_iff.1 hnode'
      have hmade := h.joined _ _ hinner
      cases node with
      | value w => exact absurd hblocked hpass
      | table origin entries => exact hmade
      | tables earlier last =>
        have hconcat : (toTables earlier ++ [Value.table (toValues last)]).getLast? =
            some (.table (toValues last)) := List.getLast?_concat
        have hlast := Joined.last hconcat hmade
        rwa [List.dropLast_concat] at hlast

lemma places_fill (value : Value) : Places (fill value) value := by
  rintro (_ | node) node' h
  · cases h
    exact .fresh value
  · cases h

lemma places_start : Places start (.table []) := by
  rintro (_ | node) node' h
  · cases h
    exact .fresh _
  · cases node with
    | value v | tables earlier last => cases h
    | table origin inner =>
      cases origin with
      | implied =>
        cases h
        exact .header _
      | header | dotted => cases h

lemma toTables_append (tables tables' : List (List (String × Node))) :
    toTables (tables ++ tables') = toTables tables ++ toTables tables' := by
  induction tables with
  | nil => rfl
  | cons entries tables ih => rw [List.cons_append, toTables, ih, toTables, List.cons_append]

lemma places_startNext : Places startNext (.array [.table []]) := by
  rintro (_ | node) node' h
  · cases h
    exact .fresh _
  · cases node with
    | value v | table origin inner => cases h
    | tables earlier last =>
      cases h
      have hnext := Joined.next (toTables earlier ++ [.table (toValues last)]) [.table []]
      rw [Option.map_some, Node.toValue, Node.toValue, toTables_append]
      exact hnext

lemma puts_assign? (value : Value) (key : String) (path : List String) :
    Puts (assign? value (key :: path)) (nested (key :: path) value) := by
  induction path generalizing key with
  | nil =>
    rw [assign?_single]
    exact (places_fill value).puts key
  | cons next path ih =>
    rw [assign?_cons]
    exact ((ih next).places rfl).puts key

lemma within?_assign?_nil (value : Value) (path : List String) (entries : Entries) :
    within? (assign? value []) path entries ≠ some entries' := by
  induction path generalizing entries entries' with
  | nil => exact nofun
  | cons key path ih =>
    rw [within?_cons]
    intro h
    obtain ⟨node', hnode', -⟩ := Option.map_eq_some_iff.1 h
    cases hlookup : entries.lookup key with
    | none =>
      rw [hlookup] at hnode'
      obtain ⟨inner, hinner, -⟩ := Option.map_eq_some_iff.1 hnode'
      exact ih _ hinner
    | some node =>
      rw [hlookup, enter] at hnode'
      split at hnode'
      · cases hnode'
      · obtain ⟨inner, hinner, -⟩ := Option.map_eq_some_iff.1 hnode'
        exact ih _ hinner

/-- What a change puts into a table it puts at the end of the keys that lead there. -/
lemma Puts.within? (h : Puts change part) (path : List String) :
    Puts (within? change path) (nested path part) := by
  induction path with
  | nil => exact h
  | cons key path ih =>
    rw [within?_cons]
    exact (ih.places rfl).puts key

end Entries

/-- What a line defines is joined into the table under construction. -/
lemma Draft.add?_joined {d d' : Draft} {s : Statement} (h : d.add? s = some d') :
    d'.current = s.next d.current ∧
      Joined (some d.entries.toTable) (s.definition d.current) d'.entries.toTable := by
  cases s with
  | table path =>
    obtain ⟨entries, hentries, rfl⟩ := Option.map_eq_some_iff.1 h
    obtain rfl | ⟨front, key, rfl⟩ := path.eq_nil_or_concat'
    · cases hentries
    · rw [Entries.around?_concat, Entries.startTable?_eq] at hentries
      refine ⟨rfl, ?_⟩
      rw [Statement.definition, nested_append]
      exact ((Entries.places_start.puts key).within? front).joined _ _ hentries
  | element path =>
    obtain ⟨entries, hentries, rfl⟩ := Option.map_eq_some_iff.1 h
    obtain rfl | ⟨front, key, rfl⟩ := path.eq_nil_or_concat'
    · cases hentries
    · rw [Entries.around?_concat, Entries.startElement?_eq] at hentries
      refine ⟨rfl, ?_⟩
      rw [Statement.definition, nested_append]
      exact ((Entries.places_startNext.puts key).within? front).joined _ _ hentries
  | assign path value =>
    obtain ⟨entries, hentries, rfl⟩ := Option.map_eq_some_iff.1 h
    refine ⟨rfl, ?_⟩
    rw [Statement.definition, nested_append]
    cases path with
    | nil => exact absurd hentries (Entries.within?_assign?_nil value d.current d.entries)
    | cons key path =>
      exact ((Entries.puts_assign? value key path).within? d.current).joined _ _ hentries

variable {statements : List Statement} {t : Value}

lemma made_run {d d' : Draft} (h : statements.foldlM Draft.add? d = some d') :
    Made d.entries.toTable (definitions d.current statements) d'.entries.toTable := by
  induction statements generalizing d with
  | nil =>
    cases h
    exact Made.nil _
  | cons s statements ih =>
    rw [List.foldlM_cons] at h
    obtain ⟨d₁, hfirst, hrest⟩ := Option.bind_eq_some_iff.1 h
    obtain ⟨hcurrent, hjoined⟩ := Draft.add?_joined hfirst
    rw [definitions, ← hcurrent]
    exact Made.cons hjoined (ih hrest)

/-- The table under construction is made of what the lines of the document define. -/
theorem made_of_ofStatements? (h : ofStatements? statements = some t) :
    Made (.table []) (definitions [] statements) t := by
  obtain ⟨d, hd, rfl⟩ := Option.map_eq_some_iff.1 h
  exact made_run hd

/-- An inline table is made like a document of its keys. -/
lemma tableOf?_eq (members : List (List String × Value)) :
    tableOf? members = ofStatements? (members.map fun m => .assign m.1 m.2) := by
  have hrun : ∀ (members : List (List String × Value)) (entries : Entries),
      (members.map fun m => Statement.assign m.1 m.2).foldlM Draft.add? ⟨[], entries⟩ =
        (members.foldlM (fun entries m => Entries.assign? m.2 m.1 entries) entries).map
          (Draft.mk []) := by
    intro members
    induction members with
    | nil => exact fun entries => rfl
    | cons m members ih =>
      intro entries
      rw [List.map_cons, List.foldlM_cons, List.foldlM_cons, Draft.add?, Entries.within?]
      cases Entries.assign? m.2 m.1 entries with
      | none => rfl
      | some next => exact ih next
  rw [tableOf?, ofStatements?, hrun, Option.map_map]
  rfl

end ApiBalancer.Toml
