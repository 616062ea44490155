import ApiBalancer.Proofs.TomlTables

/-!
# Which lines of a TOML document may stand together

A line may be out of place because of the lines before it: no table gets two headers, no key two
values, and dotted keys do not reach into a table that has a header. `Standing` says what stands at
each path of keys, `Statement.leaves` what a line makes of it, and `Statement.Fits` what it must be
for a line to come next. Lines are `Consistent` if each fits what the ones before it have left. This
speaks of paths and lines only, and of no table under construction; lines make a table under
construction exactly if they are consistent, and then the one that is made of their definitions
(`ofStatements?_iff`).
-/

namespace ApiBalancer.Toml

/-- What stands at each path of keys. -/
abbrev Standing := List String → Option Kind

/-- Before the first line there is the table of the document only. -/
def Standing.empty : Standing := fun keys => if keys = [] then some (.table .header) else none

/-- Whether no value stands on a path. -/
def Standing.Clear (st : Standing) (path : List String) : Prop :=
  ∀ q, q <+: path → st q ≠ some .value

/-- Whether dotted keys may pass what stands on their way, `left` keys before their end. They do not
reach into a value nor into a table that has a header, and the table that gets the value must be one
that dotted keys have made, or a new one. -/
def Standing.Passes (st : Standing) (keys : List String) (left : Nat) : Prop :=
  st keys ≠ some .value ∧ st keys ≠ some (.table .header) ∧
    (left = 1 → st keys ≠ some (.table .implied) ∧ st keys ≠ some .tables)

/-- What a line leaves at each path of keys. A table on its way that is missing is made, and behind
the header of an array's next table nothing is left of the last. -/
def Statement.leaves (current : List String) (st : Standing) : Statement → Standing
  | .table path, keys =>
    if keys = path then some (.table .header)
    else if keys <+: path then (st keys).or (some (.table .implied)) else st keys
  | .element path, keys =>
    if keys = path then some .tables
    else if keys <+: path then (st keys).or (some (.table .implied))
    else if path <+: keys then none else st keys
  | .assign path _, keys =>
    if keys = current ++ path then some .value
    else if keys <+: current ++ path then (st keys).or (some (.table .dotted)) else st keys

/-- Whether a line may come next. No value stands on the way of a header, and at its end there is
nothing yet, or a table that other headers imply, or for the next table of an array that array. A
key has got no value yet, nor is it a table. -/
def Statement.Fits (current : List String) (st : Standing) : Statement → Prop
  | .table path =>
    path ≠ [] ∧ st.Clear path ∧ (st path = none ∨ st path = some (.table .implied))
  | .element path => path ≠ [] ∧ st.Clear path ∧ (st path = none ∨ st path = some .tables)
  | .assign path _ =>
    path ≠ [] ∧ st (current ++ path) = none ∧
      ∀ q r, path = q ++ r → q ≠ [] → r ≠ [] → st.Passes (current ++ q) r.length

/-- Whether lines may stand one after another. -/
def Consistent (current : List String) (st : Standing) : List Statement → Prop
  | [] => True
  | s :: statements =>
    s.Fits current st ∧ Consistent (s.next current) (s.leaves current st) statements

/-- What stands below a path, seen from there. -/
def Standing.below (st : Standing) (path : List String) : Standing := fun keys =>
  if keys = [] then some (.table .header) else st (path ++ keys)

lemma Standing.below_below (st : Standing) (path path' : List String) :
    (st.below path).below path' = st.below (path ++ path') := by
  funext keys
  unfold below
  by_cases hkeys : keys = []
  · rw [if_pos hkeys, if_pos hkeys]
  · rw [if_neg hkeys, if_neg hkeys, if_neg (by simp [hkeys]), List.append_assoc]

lemma Standing.below_of_ne {st : Standing} {path keys : List String} (h : keys ≠ []) :
    st.below path keys = st (path ++ keys) := if_neg h

lemma Standing.below_nil (st : Standing) (h : st [] = some (.table .header)) :
    st.below [] = st := by
  funext keys
  unfold below
  split
  · next hkeys => rw [hkeys, h]
  · rfl

lemma Standing.clear_nil {st : Standing} (h : st [] = some (.table .header)) : st.Clear [] := by
  intro q hq
  rw [List.prefix_nil.1 hq, h]
  exact nofun

lemma Standing.clear_cons {st : Standing} (h : st [] = some (.table .header)) {key : String}
    {path : List String} :
    st.Clear (key :: path) ↔ st [key] ≠ some .value ∧ (st.below [key]).Clear path := by
  constructor
  · intro hclear
    refine ⟨hclear [key] (by simp), fun q hq => ?_⟩
    by_cases hnil : q = []
    · rw [hnil]
      exact nofun
    · rw [below_of_ne hnil]
      exact hclear _ (by simpa using hq)
  · rintro ⟨hkey, hclear⟩ q hq
    obtain rfl | ⟨rest, rfl, hrest⟩ := List.prefix_cons_iff.1 hq
    · rw [h]
      exact nofun
    · by_cases hnil : rest = []
      · rwa [hnil]
      · have hbelow := hclear rest hrest
        rwa [below_of_ne hnil] at hbelow

lemma Standing.clear_concat {st : Standing} {front : List String} {key : String} :
    st.Clear (front ++ [key]) ↔ st.Clear front ∧ st (front ++ [key]) ≠ some .value := by
  constructor
  · intro hclear
    exact ⟨fun q hq => hclear q (hq.trans (List.prefix_append _ _)), hclear _ List.prefix_rfl⟩
  · rintro ⟨hclear, hend⟩ q hq
    obtain rfl | hq := List.prefix_concat_iff.1 hq
    · exact hend
    · exact hclear q hq

lemma ne_append_of_prefix {keys front rest : List String} (h : keys <+: front) (hrest : rest ≠ []) :
    keys ≠ front ++ rest := by
  rintro rfl
  have hlength := h.length_le
  have hpos := List.length_pos_of_ne_nil hrest
  rw [List.length_append] at hlength
  omega

/-- How some keys lie to a path: on it, behind it, or beside it. -/
lemma prefix_cases (keys front : List String) :
    keys <+: front ∨ (∃ rest, rest ≠ [] ∧ ¬ front ++ rest <+: front ∧ keys = front ++ rest) ∨
      ¬ keys <+: front ∧ ¬ front <+: keys := by
  by_cases hkeys : keys <+: front
  · exact .inl hkeys
  · by_cases hfront : front <+: keys
    · obtain ⟨rest, rfl⟩ := hfront
      refine .inr (.inl ⟨rest, ?_, hkeys, rfl⟩)
      rintro rfl
      exact hkeys (by simp)
    · exact .inr (.inr ⟨hkeys, hfront⟩)

/-- Keys beside a path are beside every longer one. -/
lemma beside_append {keys front : List String} (hkeys : ¬ keys <+: front)
    (hfront : ¬ front <+: keys) (rest : List String) :
    keys ≠ front ++ rest ∧ ¬ keys <+: front ++ rest ∧ ¬ front ++ rest <+: keys := by
  have hnot : ¬ keys <+: front ++ rest := fun h =>
    (List.prefix_or_prefix_of_prefix h (List.prefix_append _ _)).elim hkeys hfront
  refine ⟨?_, hnot, fun h => hfront ((List.prefix_append _ _).trans h)⟩
  rintro rfl
  exact hnot List.prefix_rfl

lemma Standing.passes_below_iff {st : Standing} {key : String} {keys : List String} {left : Nat}
    (h : keys ≠ []) : (st.below [key]).Passes keys left ↔ st.Passes (key :: keys) left := by
  unfold Passes
  rw [below_of_ne h, List.singleton_append]

/-- Dotted keys pass what stands on their way if the first does, and the others from there on. -/
lemma Standing.forall_passes_cons_iff {st : Standing} {key next : String} {path : List String} :
    (st.Passes [key] (next :: path).length ∧
      ∀ q r, next :: path = q ++ r → q ≠ [] → r ≠ [] → (st.below [key]).Passes q r.length) ↔
      ∀ q r, key :: next :: path = q ++ r → q ≠ [] → r ≠ [] → st.Passes q r.length := by
  constructor
  · rintro ⟨hfirst, hothers⟩ q r heq hq hr
    obtain ⟨k, rest, rfl⟩ := List.exists_cons_of_ne_nil hq
    obtain ⟨rfl, htail⟩ := List.cons_eq_cons.1 heq
    by_cases hnil : rest = []
    · subst hnil
      rwa [← htail.trans r.nil_append]
    · exact (passes_below_iff hnil).1 (hothers rest r htail hnil hr)
  · intro hall
    refine ⟨hall [key] (next :: path) rfl (by simp) (by simp), fun q r heq hq hr => ?_⟩
    exact (passes_below_iff hq).2 (hall (key :: q) r (by rw [heq, List.cons_append]) (by simp) hr)

/-- When a header may come next, seen from the last table on its way. -/
lemma Standing.header_fits_iff {st : Standing} {front : List String} {key : String} {kind : Kind}
    (hkind : kind ≠ .value) :
    st.Clear front ∧ (st.below front [key] = none ∨ st.below front [key] = some kind) ↔
      front ++ [key] ≠ [] ∧ st.Clear (front ++ [key]) ∧
        (st (front ++ [key]) = none ∨ st (front ++ [key]) = some kind) := by
  rw [below_of_ne (List.cons_ne_nil key []), clear_concat]
  constructor
  · rintro ⟨hclear, hend⟩
    refine ⟨by simp, ⟨hclear, ?_⟩, hend⟩
    rcases hend with hend | hend
    · rw [hend]
      exact nofun
    · rw [hend]
      exact fun h => hkind (Option.some.inj h)
  · rintro ⟨-, ⟨hclear, -⟩, hend⟩
    exact ⟨hclear, hend⟩

/-- What keys lead to from a node. -/
def Node.kind? : Node → List String → Option Kind
  | node, [] => some node.kind
  | node, key :: keys => (node.inner.lookup key).bind fun next => next.kind? keys

@[simp] lemma Node.kind?_nil (node : Node) : node.kind? [] = some node.kind := by
  cases node <;> rfl

lemma Node.kind?_cons (node : Node) (key : String) (keys : List String) :
    node.kind? (key :: keys) = (node.inner.lookup key).bind fun next => next.kind? keys := by
  cases node <;> rfl

namespace Entries

variable {entries entries' : Entries} {key : String} {node : Node} {path keys : List String}
  {value : Value} {change : Entries → Option Entries} {f : Option Node → Option Node}
  {blocked : Kind → Bool} {origin : Origin}

def standing (entries : Entries) : Standing := (Node.table .header entries).kind?

@[simp] lemma standing_nil (entries : Entries) : entries.standing [] = some (.table .header) := rfl

lemma standing_cons (entries : Entries) (key : String) (keys : List String) :
    entries.standing (key :: keys) = (entries.lookup key).bind fun node => node.kind? keys := rfl

lemma standing_empty : standing [] = Standing.empty := by
  funext keys
  cases keys with
  | nil => rfl
  | cons key keys => rfl

lemma standing_setEntry (entries : Entries) (key k : String) (node : Node) (keys : List String) :
    standing (setEntry entries key node) (k :: keys) =
      if k = key then node.kind? keys else entries.standing (k :: keys) := by
  rw [standing_cons, standing_cons, lookup_setEntry]
  by_cases hk : k = key
  · rw [if_pos hk, if_pos hk, Option.bind_some]
  · rw [if_neg hk, if_neg hk]

lemma standing_of_none (h : entries.lookup key = none) :
    standing [] = entries.standing.below [key] := by
  funext keys
  cases keys with
  | nil => rfl
  | cons k keys =>
    rw [Standing.below_of_ne (List.cons_ne_nil k keys), List.singleton_append, standing_cons,
      standing_cons, h]
    rfl

lemma standing_of_some (h : entries.lookup key = some node) :
    node.inner.standing = entries.standing.below [key] := by
  funext keys
  cases keys with
  | nil => rfl
  | cons k keys =>
    rw [Standing.below_of_ne (List.cons_ne_nil k keys), List.singleton_append, standing_cons,
      standing_cons, h, Option.bind_some, Node.kind?_cons]

/-- What a change of what is at the end of a key leaves at each path of keys. -/
lemma standing_update (h : update key f entries = some entries') :
    ∃ node, f (entries.lookup key) = some node ∧ ∀ keys, entries'.standing keys =
      if keys = [key] then some node.kind
      else if [key] <+: keys then node.inner.standing keys.tail else entries.standing keys := by
  obtain ⟨node, hnode, rfl⟩ := Option.map_eq_some_iff.1 h
  refine ⟨node, hnode, fun keys => ?_⟩
  cases keys with
  | nil => simp
  | cons k keys =>
    rw [standing_setEntry]
    by_cases hk : k = key
    · subst hk
      rw [if_pos rfl]
      cases keys with
      | nil => rw [if_pos rfl, Node.kind?_nil]
      | cons next keys =>
        rw [if_neg (by simp), if_pos (by simp), List.tail_cons, standing_cons, Node.kind?_cons]
    · rw [if_neg hk, if_neg (by simp [hk]), if_neg (by simp [Ne.symm hk])]

/-- A change that leaves alone what stands behind the key. -/
lemma standing_update_of_below {kind : Kind} (h : update key f entries = some entries')
    (hf : ∀ node, f (entries.lookup key) = some node →
      node.kind = kind ∧ node.inner.standing = entries.standing.below [key]) :
    entries'.standing = fun keys => if keys = [key] then some kind else entries.standing keys := by
  obtain ⟨node, hnode, hstanding⟩ := standing_update h
  obtain ⟨hkind, hinner⟩ := hf node hnode
  funext keys
  rw [hstanding, hkind, hinner]
  by_cases hkeys : [key] <+: keys
  · obtain ⟨rest, rfl⟩ := hkeys
    cases rest with
    | nil => simp
    | cons next rest => simp [Standing.below_of_ne]
  · rw [if_neg hkeys]

/-- When a change of a table is made, and what it leaves at each path of keys. -/
structure Acts (change : Entries → Option Entries) (fits : Standing → Prop)
    (leaves : Standing → Standing) : Prop where
  isSome_iff : ∀ entries, (change entries).isSome ↔ fits entries.standing
  leaves : ∀ entries entries', change entries = some entries' →
    entries'.standing = leaves entries.standing

lemma Acts.congr {fits fits' : Standing → Prop} {leaves leaves' : Standing → Standing}
    (h : Acts change fits leaves)
    (hfits : ∀ st : Standing, st [] = some (.table .header) → (fits st ↔ fits' st))
    (hleaves : ∀ st : Standing, st [] = some (.table .header) → fits st → leaves st = leaves' st) :
    Acts change fits' leaves' where
  isSome_iff entries := (h.isSome_iff entries).trans (hfits _ rfl)
  leaves entries entries' hchange :=
    (h.leaves _ _ hchange).trans (hleaves _ rfl ((h.isSome_iff entries).1 (by rw [hchange]; rfl)))

/-- A change of what is at the end of a key. -/
lemma acts_enter {fits : Standing → Prop} {leaves : Standing → Standing}
    (h : Acts change fits leaves) (hblocked : blocked .value = true) (origin : Origin)
    (key : String) :
    Acts (update key (enter blocked origin change))
      (fun st => (∀ kind, st [key] = some kind → blocked kind = false) ∧ fits (st.below [key]))
      (fun st keys =>
        if keys = [key] then (st keys).or (some (.table origin))
        else if [key] <+: keys then leaves (st.below [key]) keys.tail else st keys) where
  isSome_iff entries := by
    rw [update, Option.isSome_map, standing_cons]
    cases hlookup : entries.lookup key with
    | none =>
      rw [enter, Option.isSome_map, h.isSome_iff, standing_of_none hlookup]
      simp
    | some node =>
      rw [enter, ← standing_of_some hlookup, ← h.isSome_iff]
      by_cases hpass : blocked node.kind = true <;> simp [hpass]
  leaves entries entries' hupdate := by
    obtain ⟨node', hnode', hstanding⟩ := standing_update hupdate
    have hnode : node'.kind = ((entries.lookup key).map Node.kind).getD (.table origin) ∧
        node'.inner.standing = leaves (entries.standing.below [key]) := by
      cases hlookup : entries.lookup key with
      | none =>
        rw [hlookup] at hnode'
        obtain ⟨inner, hinner, rfl⟩ := Option.map_eq_some_iff.1 hnode'
        exact ⟨rfl, by rw [← standing_of_none hlookup]; exact h.leaves _ _ hinner⟩
      | some node =>
        rw [hlookup, enter] at hnode'
        split at hnode'
        · cases hnode'
        · next hpass =>
          obtain ⟨inner, hinner, rfl⟩ := Option.map_eq_some_iff.1 hnode'
          rw [← standing_of_some hlookup, ← h.leaves _ _ hinner]
          cases node with
          | value v => exact absurd hblocked hpass
          | table origin inner' | tables earlier last => exact ⟨rfl, rfl⟩
    funext keys
    rw [hstanding, hnode.1, hnode.2]
    by_cases hkeys : keys = [key]
    · subst hkeys
      rw [if_pos rfl, if_pos rfl, standing_cons]
      cases entries.lookup key <;> simp
    · rw [if_neg hkeys, if_neg hkeys]

lemma acts_fill (value : Value) (key : String) :
    Acts (update key (fill value)) (fun st => st [key] = none)
      (fun st keys => if keys = [key] then some .value else st keys) where
  isSome_iff entries := by
    rw [update, Option.isSome_map, standing_cons]
    cases entries.lookup key <;> simp [fill]
  leaves entries entries' h := standing_update_of_below h fun node hnode => by
    cases hlookup : entries.lookup key with
    | some node' =>
      rw [hlookup] at hnode
      cases hnode
    | none =>
      rw [hlookup] at hnode
      cases hnode
      exact ⟨rfl, standing_of_none hlookup⟩

lemma acts_start (key : String) :
    Acts (update key start) (fun st => st [key] = none ∨ st [key] = some (.table .implied))
      (fun st keys => if keys = [key] then some (.table .header) else st keys) where
  isSome_iff entries := by
    rw [update, Option.isSome_map, standing_cons]
    cases entries.lookup key with
    | none => simp [start]
    | some node =>
      cases node with
      | value v | tables earlier last => simp [start, Node.kind]
      | table origin inner => cases origin <;> simp [start, Node.kind]
  leaves entries entries' h := standing_update_of_below h fun node hnode => by
    cases hlookup : entries.lookup key with
    | none =>
      rw [hlookup] at hnode
      cases hnode
      exact ⟨rfl, standing_of_none hlookup⟩
    | some node' =>
      rw [hlookup] at hnode
      cases node' with
      | value v | tables earlier last => cases hnode
      | table origin inner =>
        cases origin with
        | header | dotted => cases hnode
        | implied =>
          cases hnode
          have hinner := standing_of_some hlookup
          exact ⟨rfl, hinner⟩

lemma acts_startNext (key : String) :
    Acts (update key startNext) (fun st => st [key] = none ∨ st [key] = some .tables)
      (fun st keys =>
        if keys = [key] then some .tables else if [key] <+: keys then none else st keys) where
  isSome_iff entries := by
    rw [update, Option.isSome_map, standing_cons]
    cases entries.lookup key with
    | none => simp [startNext]
    | some node => cases node <;> simp [startNext, Node.kind]
  leaves entries entries' h := by
    obtain ⟨node', hnode', hstanding⟩ := standing_update h
    have hnode : node'.kind = .tables ∧ node'.inner = [] := by
      cases hlookup : entries.lookup key with
      | none =>
        rw [hlookup] at hnode'
        cases hnode'
        exact ⟨rfl, rfl⟩
      | some node =>
        rw [hlookup] at hnode'
        cases node with
        | value v | table origin inner => cases hnode'
        | tables earlier last =>
          cases hnode'
          exact ⟨rfl, rfl⟩
    funext keys
    rw [hstanding, hnode.1, hnode.2]
    by_cases hkeys : [key] <+: keys
    · obtain ⟨rest, rfl⟩ := hkeys
      cases rest <;> simp [standing_cons]
    · rw [if_neg hkeys, if_neg hkeys]

lemma Acts.within {fits : Standing → Prop} {leaves : Standing → Standing}
    (h : Acts change fits leaves) (path : List String) :
    Acts (within? change path) (fun st => st.Clear path ∧ fits (st.below path))
      (fun st keys =>
        if keys <+: path then (st keys).or (some (.table .implied))
        else if path <+: keys then leaves (st.below path) (keys.drop path.length)
        else st keys) := by
  induction path with
  | nil =>
    constructor
    · intro entries
      rw [entries.standing.below_nil rfl, and_iff_right (Standing.clear_nil rfl)]
      exact h.isSome_iff entries
    · intro entries entries' hchange
      rw [entries.standing.below_nil rfl, ← h.leaves entries entries' hchange]
      funext keys
      cases keys <;> simp
  | cons key path ih =>
    rw [within?_cons]
    refine (acts_enter ih rfl .implied key).congr (fun st hst => ?_) fun st hst _ => ?_
    · have hpass : (∀ kind, st [key] = some kind → blocksHeader kind = false) ↔
          st [key] ≠ some .value := by
        cases st [key] <;> simp [blocksHeader]
      rw [hpass, Standing.below_below, List.singleton_append, Standing.clear_cons hst, and_assoc]
    · rw [Standing.below_below, List.singleton_append]
      funext keys
      cases keys with
      | nil => simp [hst]
      | cons k keys =>
        by_cases hk : k = key
        · subst hk
          cases keys with
          | nil => simp
          | cons next keys => simp [Standing.below_of_ne]
        · simp [hk, Ne.symm hk]

lemma forall_blocksDotted_iff {st : Standing} {next : String} :
    (∀ kind, st keys = some kind → blocksDotted path.isEmpty kind = false) ↔
      st.Passes keys (next :: path).length := by
  unfold Standing.Passes
  cases st keys with
  | none => simp
  | some kind =>
    cases kind with
    | value | tables => simp [blocksDotted]
    | table origin => cases origin <;> simp [blocksDotted]

/-- What dotted keys do on their way. -/
lemma acts_assign? (value : Value) (key : String) (path : List String) :
    Acts (assign? value (key :: path))
      (fun st => st (key :: path) = none ∧
        ∀ q r, key :: path = q ++ r → q ≠ [] → r ≠ [] → st.Passes q r.length)
      (fun st keys =>
        if keys = key :: path then some .value
        else if keys <+: key :: path then (st keys).or (some (.table .dotted)) else st keys) := by
  induction path generalizing key with
  | nil =>
    rw [assign?_single]
    refine (acts_fill value key).congr (fun st _ => ?_) fun st hst _ => ?_
    · rw [iff_self_and]
      intro _ q r heq hq hr
      have hlength := congrArg List.length heq
      have hq := List.length_pos_of_ne_nil hq
      have hr := List.length_pos_of_ne_nil hr
      simp only [List.length_cons, List.length_nil, List.length_append] at hlength
      omega
    · funext keys
      cases keys with
      | nil => simp [hst]
      | cons k keys => by_cases hk : k = key <;> cases keys <;> simp [hk]
  | cons next path ih =>
    rw [assign?_cons]
    refine (acts_enter (ih next) rfl .dotted key).congr (fun st hst => ?_) fun st hst _ => ?_
    · rw [forall_blocksDotted_iff, Standing.below_of_ne (List.cons_ne_nil next path),
        List.singleton_append, and_left_comm, Standing.forall_passes_cons_iff]
    · funext keys
      cases keys with
      | nil => simp [hst]
      | cons k keys =>
        by_cases hk : k = key
        · subst hk
          cases keys with
          | nil => simp
          | cons next keys => simp [Standing.below_of_ne]
        · simp [hk, Ne.symm hk]

/-- What stands where after the header of a table. -/
lemma acts_header (front : List String) (key : String) :
    Acts (within? (startTable? key) front)
      (fun st => (Statement.table (front ++ [key])).Fits [] st)
      (fun st => (Statement.table (front ++ [key])).leaves [] st) := by
  rw [startTable?_eq]
  refine ((acts_start key).within front).congr (fun st _ => ?_) fun st _ _ => ?_
  · exact Standing.header_fits_iff nofun
  · funext keys
    rw [Statement.leaves]
    obtain hkeys | ⟨rest, hrest, hnot, rfl⟩ | ⟨hkeys, hfront⟩ := prefix_cases keys front
    · have hne : keys ≠ front ++ [key] := ne_append_of_prefix hkeys (List.cons_ne_nil key [])
      rw [if_pos hkeys, if_neg hne, if_pos (hkeys.trans (List.prefix_append _ _))]
    · by_cases hlast : rest = [key]
      · subst hlast
        simp [hnot]
      · simp [hlast, hrest, hnot, Standing.below_of_ne, List.prefix_cons_iff]
    · obtain ⟨hne, hnot, -⟩ := beside_append hkeys hfront [key]
      rw [if_neg hkeys, if_neg hfront, if_neg hne, if_neg hnot]

/-- What stands where after the header of an array's next table. -/
lemma acts_elementHeader (front : List String) (key : String) :
    Acts (within? (startElement? key) front)
      (fun st => (Statement.element (front ++ [key])).Fits [] st)
      (fun st => (Statement.element (front ++ [key])).leaves [] st) := by
  rw [startElement?_eq]
  refine ((acts_startNext key).within front).congr (fun st _ => ?_) fun st _ _ => ?_
  · exact Standing.header_fits_iff nofun
  · funext keys
    rw [Statement.leaves]
    obtain hkeys | ⟨rest, hrest, hnot, rfl⟩ | ⟨hkeys, hfront⟩ := prefix_cases keys front
    · have hne : keys ≠ front ++ [key] := ne_append_of_prefix hkeys (List.cons_ne_nil key [])
      rw [if_pos hkeys, if_neg hne, if_pos (hkeys.trans (List.prefix_append _ _))]
    · by_cases hlast : rest = [key]
      · subst hlast
        simp [hnot]
      · simp [hlast, hrest, hnot, Standing.below_of_ne, List.prefix_cons_iff]
    · obtain ⟨hne, hnot, hnot'⟩ := beside_append hkeys hfront [key]
      rw [if_neg hkeys, if_neg hfront, if_neg hne, if_neg hnot, if_neg hnot']

/-- What stands where after a key has got its value, below a header whose way has been made. -/
lemma standing_assign {current : List String}
    (hcurrent : ∀ q, q <+: current → entries.standing q ≠ none) {key : String}
    (h : within? (assign? value (key :: path)) current entries = some entries') :
    entries'.standing =
      (Statement.assign (key :: path) value).leaves current entries.standing := by
  rw [((acts_assign? value key path).within current).leaves _ _ h]
  funext keys
  rw [Statement.leaves]
  obtain hkeys | ⟨rest, hrest, hnot, rfl⟩ | ⟨hkeys, hfront⟩ := prefix_cases keys current
  · have hne := ne_append_of_prefix hkeys (List.cons_ne_nil key path)
    obtain ⟨kind, hkind⟩ := Option.ne_none_iff_exists'.1 (hcurrent keys hkeys)
    rw [if_pos hkeys, if_neg hne, if_pos (hkeys.trans (List.prefix_append _ _)), hkind,
      Option.some_or, Option.some_or]
  · simp [hrest, hnot, Standing.below_of_ne]
  · obtain ⟨hne, hnot, -⟩ := beside_append hkeys hfront (key :: path)
    rw [if_neg hkeys, if_neg hfront, if_neg hne, if_neg hnot]

end Entries

/-- Whether a draft has what stands at each path of keys, and the table of the last header. -/
structure Draft.Shows (d : Draft) (last : List String) (st : Standing) : Prop where
  current : d.current = last
  standing : d.entries.standing = st
  open_last : ∀ q, q <+: last → st q ≠ none ∧ st q ≠ some .value

namespace Draft.Shows

variable {d d' : Draft} {current : List String} {st : Standing} {s : Statement}

/-- A header leaves its own way open. -/
lemma of_header {path : List String} {entries : Entries} (kind : Kind) (hkind : kind ≠ .value)
    (hclear : st.Clear path) (hpath : entries.standing path = some kind)
    (hway : ∀ q, q <+: path → q ≠ path →
      entries.standing q = (st q).or (some (.table .implied))) :
    Draft.Shows ⟨path, entries⟩ path entries.standing := by
  refine ⟨rfl, rfl, fun q hq => ?_⟩
  by_cases heq : q = path
  · rw [heq, hpath]
    exact ⟨nofun, fun h => hkind (Option.some.inj h)⟩
  · rw [hway q hq heq]
    have hvalue := hclear q hq
    cases hst : st q with
    | none => exact ⟨nofun, nofun⟩
    | some kind' =>
      rw [hst] at hvalue
      exact ⟨nofun, hvalue⟩

lemma isSome_add?_iff (h : d.Shows current st) : (d.add? s).isSome ↔ s.Fits current st := by
  obtain ⟨rfl, rfl, hopen⟩ := h
  cases s with
  | table path =>
    rw [Draft.add?, Option.isSome_map]
    obtain rfl | ⟨front, key, rfl⟩ := path.eq_nil_or_concat'
    · simp [Entries.around?, Statement.Fits]
    · rw [Entries.around?_concat]
      exact (Entries.acts_header front key).isSome_iff d.entries
  | element path =>
    rw [Draft.add?, Option.isSome_map]
    obtain rfl | ⟨front, key, rfl⟩ := path.eq_nil_or_concat'
    · simp [Entries.around?, Statement.Fits]
    · rw [Entries.around?_concat]
      exact (Entries.acts_elementHeader front key).isSome_iff d.entries
  | assign path value =>
    rw [Draft.add?, Option.isSome_map]
    cases path with
    | nil =>
      have hnone : Entries.within? (Entries.assign? value []) d.current d.entries = none :=
        Option.eq_none_iff_forall_ne_some.2 fun _ h =>
          Entries.within?_assign?_nil value d.current d.entries h
      simp [hnone, Statement.Fits]
    | cons key path =>
      have hclear : d.entries.standing.Clear d.current := fun q hq => (hopen q hq).2
      rw [((Entries.acts_assign? value key path).within d.current).isSome_iff,
        Standing.below_of_ne (List.cons_ne_nil key path), Statement.Fits, and_iff_right hclear,
        and_iff_right (List.cons_ne_nil key path)]
      apply and_congr_right
      intro _
      refine forall_congr' fun q => forall_congr' fun r => forall_congr' fun _ =>
        forall_congr' fun hq => ?_
      unfold Standing.Passes
      rw [Standing.below_of_ne hq]

lemma add? (h : d.Shows current st) (hadd : d.add? s = some d') :
    d'.Shows (s.next current) (s.leaves current st) := by
  have hfits : s.Fits current st := h.isSome_add?_iff.1 (by rw [hadd]; rfl)
  obtain ⟨rfl, rfl, hopen⟩ := h
  cases s with
  | table path =>
    obtain ⟨entries, hentries, rfl⟩ := Option.map_eq_some_iff.1 hadd
    obtain rfl | ⟨front, key, rfl⟩ := path.eq_nil_or_concat'
    · cases hentries
    · rw [Entries.around?_concat] at hentries
      have hleaves := (Entries.acts_header front key).leaves _ _ hentries
      have hshows := of_header (.table .header) nofun hfits.2.1
        (by rw [hleaves]; exact if_pos rfl) (fun q hq hne => by
          rw [hleaves, Statement.leaves, if_neg hne, if_pos hq])
      rw [hleaves] at hshows
      exact hshows
  | element path =>
    obtain ⟨entries, hentries, rfl⟩ := Option.map_eq_some_iff.1 hadd
    obtain rfl | ⟨front, key, rfl⟩ := path.eq_nil_or_concat'
    · cases hentries
    · rw [Entries.around?_concat] at hentries
      have hleaves := (Entries.acts_elementHeader front key).leaves _ _ hentries
      have hshows := of_header .tables nofun hfits.2.1
        (by rw [hleaves]; exact if_pos rfl) (fun q hq hne => by
          rw [hleaves, Statement.leaves, if_neg hne, if_pos hq])
      rw [hleaves] at hshows
      exact hshows
  | assign path value =>
    obtain ⟨entries, hentries, rfl⟩ := Option.map_eq_some_iff.1 hadd
    cases path with
    | nil => exact absurd hentries (Entries.within?_assign?_nil value d.current d.entries)
    | cons key path =>
      have hleaves := Entries.standing_assign (fun q hq => (hopen q hq).1) hentries
      refine ⟨rfl, hleaves, fun q (hq : q <+: d.current) => ?_⟩
      have hsame : (Statement.assign (key :: path) value).leaves d.current d.entries.standing q =
          d.entries.standing q := by
        have hne := ne_append_of_prefix hq (List.cons_ne_nil key path)
        obtain ⟨kind, hkind⟩ := Option.ne_none_iff_exists'.1 (hopen q hq).1
        rw [Statement.leaves, if_neg hne, if_pos (hq.trans (List.prefix_append _ _)), hkind,
          Option.some_or]
      rw [hsame]
      exact hopen q hq

end Draft.Shows

lemma shows_empty : Draft.Shows {} [] Standing.empty := by
  refine ⟨rfl, Entries.standing_empty, fun q hq => ?_⟩
  rw [List.prefix_nil.1 hq]
  exact ⟨nofun, nofun⟩

variable {statements : List Statement} {t : Value}

lemma isSome_foldlM_iff {d : Draft} {current : List String} {st : Standing}
    (h : d.Shows current st) :
    (statements.foldlM Draft.add? d).isSome ↔ Consistent current st statements := by
  induction statements generalizing d current st with
  | nil => exact iff_of_true rfl trivial
  | cons s statements ih =>
    rw [List.foldlM_cons, Consistent, ← h.isSome_add?_iff]
    cases hadd : d.add? s with
    | none => exact iff_of_false nofun fun hboth => absurd hboth.1 nofun
    | some d' => exact (ih (h.add? hadd)).trans (and_iff_right rfl).symm

/-- What some lines say as a table: they may stand together, and it is made of their definitions. -/
def Tabled (statements : List Statement) (t : Value) : Prop :=
  Consistent [] .empty statements ∧ Made (.table []) (definitions [] statements) t

lemma isSome_ofStatements?_iff :
    (ofStatements? statements).isSome ↔ Consistent [] .empty statements := by
  rw [ofStatements?, Option.isSome_map]
  exact isSome_foldlM_iff shows_empty

/-- The table under construction is the one that the lines say. -/
theorem ofStatements?_iff : ofStatements? statements = some t ↔ Tabled statements t := by
  constructor
  · intro h
    exact ⟨isSome_ofStatements?_iff.1 (by rw [h]; rfl), made_of_ofStatements? h⟩
  · rintro ⟨h, hmade⟩
    obtain ⟨t', ht'⟩ := Option.isSome_iff_exists.1 (isSome_ofStatements?_iff.2 h)
    rw [ht', (made_of_ofStatements? ht').unique hmade]

/-- An inline table is the one that its keys say as lines of a document. -/
theorem tableOf?_iff {members : List (List String × Value)} :
    tableOf? members = some t ↔ Tabled (members.map fun m => .assign m.1 m.2) t := by
  rw [tableOf?_eq, ofStatements?_iff]

end ApiBalancer.Toml
