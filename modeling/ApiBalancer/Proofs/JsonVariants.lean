import ApiBalancer.Json.Fields
import Mathlib.Data.List.Forall2
import Mathlib.Data.List.Perm.Basic
import Mathlib.Data.List.Nodup

/-!
# Variants of a JSON value

Two JSON values are variants of each other (`Json.Variant`) if they differ in the order of the
members of objects, and in members that no field of a record takes. What is read of a value does not
depend on which of its variants it is read from: the fields of a record (`Json.Variant.fields?`), a
map (`Json.Variant.mapOf?`) and a name (`Json.Variant.name?`).
-/

namespace ApiBalancer

namespace NameMap

variable {β : Type}

/-- In a list without a repeated key each entry is found by its key. -/
lemma lookup_of_nodup {l : List (String × β)} (h : (l.map (·.1)).Nodup) {e : String × β}
    (he : e ∈ l) : l.lookup e.1 = some e.2 := by
  induction l with
  | nil => cases he
  | cons first rest ih =>
    obtain ⟨hfirst, hrest⟩ := List.nodup_cons.1 h
    rcases List.mem_cons.1 he with rfl | he
    · exact List.lookup_cons_self
    · have hne : (e.1 == first.1) = false := by
        rw [beq_eq_false_iff_ne]
        intro heq
        exact hfirst (List.mem_map.2 ⟨e, he, heq⟩)
      rw [List.lookup_cons, hne]
      exact ih hrest he

lemma insert_comm {k k' : String} (h : k ≠ k') (m : NameMap β) (v v' : β) :
    (m.insert k v).insert k' v' = (m.insert k' v').insert k v := by
  apply ext_get?
  intro name
  rw [get?_insert, get?_insert, get?_insert, get?_insert]
  split_ifs with hnew hold
  · exact absurd (hold.symm.trans hnew) h
  · rfl
  · rfl
  · rfl

/-- The order of a list does not matter for its map, if no key is repeated. -/
lemma ofList_of_perm {l l' : List (String × β)} (h : l.Perm l') (hnodup : (l.map (·.1)).Nodup) :
    ofList l = ofList l' := by
  unfold ofList
  refine h.foldl_eq' (fun x hx y hy m => ?_) ∅
  by_cases hkey : x.1 = y.1
  · rw [List.inj_on_of_nodup_map hnodup hx hy hkey]
  · exact insert_comm hkey m x.2 y.2

lemma ofList_toList [Inhabited β] (m : NameMap β) : ofList m.toList = m := by
  have hget : ∀ e ∈ m.toList, m.get? e.1 = some e.2 :=
    fun e he => (mem_entries_iff m e.1 e.2).1 he
  let value := fun k => (m.get? k).getD default
  have hlist : m.toList.map (fun e => (e.1, value e.1)) = m.toList := by
    refine (List.map_congr_left fun e he => ?_).trans (List.map_id m.toList)
    simp only [value, hget e he, Option.getD_some, id]
  apply ext_get?
  intro k
  rw [← hlist, get?_ofList_map m.toList Prod.fst value]
  split_ifs with hk
  · obtain ⟨e, he, rfl⟩ := List.mem_map.1 hk
    rw [hget e he]
    simp only [value, hget e he, Option.getD_some]
  · cases hvalue : m.get? k with
    | none => rfl
    | some v => exact absurd (List.mem_map_of_mem ((mem_entries_iff m k v).2 hvalue)) hk

end NameMap

namespace Json

variable {α β γ δ : Type}

lemma Rel.refl {R : α → α → Prop} (h : ∀ a, R a a) (x : Option α) : Option.Rel R x x := by
  cases x with
  | none => exact .none
  | some a => exact .some (h a)

lemma Rel.trans {R : α → α → Prop} (h : ∀ a b c, R a b → R b c → R a c) {x y z : Option α}
    (hxy : Option.Rel R x y) (hyz : Option.Rel R y z) : Option.Rel R x z := by
  cases hxy with
  | none => exact hyz
  | some hab =>
    cases hyz with
    | some hbc => exact .some (h _ _ _ hab hbc)

lemma Rel.mono {R S : α → β → Prop} (h : ∀ a b, R a b → S a b) {x : Option α} {y : Option β}
    (hxy : Option.Rel R x y) : Option.Rel S x y := by
  cases hxy with
  | none => exact .none
  | some hab => exact .some (h _ _ hab)

lemma Rel.bind {R : α → β → Prop} {S : γ → δ → Prop} {f : α → Option γ} {g : β → Option δ}
    (hfg : ∀ a b, R a b → Option.Rel S (f a) (g b)) {x : Option α} {y : Option β}
    (h : Option.Rel R x y) : Option.Rel S (x.bind f) (y.bind g) := by
  cases h with
  | none => exact .none
  | some hab => exact hfg _ _ hab

lemma Rel.bind_eq {R : α → β → Prop} {f : α → Option γ} {g : β → Option γ}
    (hfg : ∀ a b, R a b → f a = g b) {x : Option α} {y : Option β} (h : Option.Rel R x y) :
    x.bind f = y.bind g := by
  cases h with
  | none => rfl
  | some hab => exact hfg _ _ hab

/-- What is known of an outcome may be used where it is related to another one. -/
lemma Rel.outcome {R : α → β → Prop} {x : Option α} {y : Option β} (h : Option.Rel R x y) :
    Option.Rel (fun a b => x = some a ∧ R a b) x y := by
  cases h with
  | none => exact .none
  | some hab => exact .some ⟨rfl, hab⟩

lemma Rel.mapM {R : α → β → Prop} {S : γ → δ → Prop} {f : α → Option γ} {g : β → Option δ}
    (hfg : ∀ a b, R a b → Option.Rel S (f a) (g b)) {xs : List α} {ys : List β}
    (h : List.Forall₂ R xs ys) : Option.Rel (List.Forall₂ S) (xs.mapM f) (ys.mapM g) := by
  induction h with
  | nil => exact .some .nil
  | cons hhead _ ih =>
    rw [List.mapM_cons, List.mapM_cons]
    refine Rel.bind (fun c d hcd => ?_) (hfg _ _ hhead)
    exact Rel.bind (fun cs ds hcds => .some (.cons hcd hcds)) ih

lemma perm_mapM (f : α → Option β) {l l' : List α} (h : l.Perm l') :
    Option.Rel List.Perm (l.mapM f) (l'.mapM f) := by
  induction h with
  | nil => exact .some .nil
  | cons a _ ih =>
    rw [List.mapM_cons, List.mapM_cons]
    cases f a with
    | none => exact .none
    | some b => exact Rel.bind (fun bs bs' hbs => .some (hbs.cons b)) ih
  | swap a b l =>
    simp only [List.mapM_cons]
    cases f a with
    | none => cases f b <;> exact .none
    | some a' =>
      cases f b with
      | none => exact .none
      | some b' =>
        cases l.mapM f with
        | none => exact .none
        | some l' => exact .some (.swap a' b' l')
  | trans _ _ ih ih' => exact Rel.trans (fun _ _ _ hab hbc => hab.trans hbc) ih ih'

lemma keyed?_members (members : List (String × Json)) :
    keyed? (members.map fun m => (some m.1, m.2)) = some members := by
  unfold keyed?
  induction members with
  | nil => rfl
  | cons m rest ih =>
    rw [List.map_cons, List.mapM_cons, ih]
    rfl

lemma keyed?_cons (key : String) (v : Json) (rest : List (Option String × Json)) :
    keyed? ((some key, v) :: rest) = (keyed? rest).map ((key, v) :: ·) := by
  unfold keyed?
  rw [List.mapM_cons]
  cases rest.mapM fun m : Option String × Json => m.1.map (·, m.2) <;> rfl

lemma keys_of_keyed? {members : List (Option String × Json)} {keyed : List (String × Json)}
    (h : keyed? members = some keyed) : keyed.map (·.1) = members.filterMap (·.1) := by
  induction members generalizing keyed with
  | nil =>
    cases h
    rfl
  | cons m rest ih =>
    obtain ⟨_ | key, v⟩ := m
    · cases h
    · rw [keyed?_cons] at h
      obtain ⟨others, hothers, rfl⟩ := Option.map_eq_some_iff.1 h
      rw [List.map_cons, ih hothers]
      rfl

/-- A member with a text as its key is one more, wherever it stands. -/
lemma keyed?_added (key : String) (v : Json) (a b : List (Option String × Json)) :
    Option.Rel (fun keyed keyed' => keyed'.Perm ((key, v) :: keyed))
      (keyed? (a ++ b)) (keyed? (a ++ (some key, v) :: b)) := by
  have hperm : Option.Rel List.Perm (keyed? (a ++ (some key, v) :: b))
      (keyed? ((some key, v) :: (a ++ b))) := perm_mapM _ List.perm_middle
  rw [keyed?_cons] at hperm
  generalize keyed? (a ++ b) = keyed at hperm
  generalize keyed? (a ++ (some key, v) :: b) = keyed' at hperm
  cases keyed with
  | none =>
    cases hperm
    exact .none
  | some keyed =>
    cases hperm with
    | some h => exact .some h

lemma atMostOnce?_of_nodup {fields : List (String × Json)} (h : (fields.map Prod.fst).Nodup)
    (name : String) :
    (∃ value, (name, value) ∈ fields ∧ atMostOnce? fields name = some (some value)) ∨
      (∀ value, (name, value) ∉ fields) ∧ atMostOnce? fields name = some none := by
  have hmem : ∀ m, m ∈ fields.filter (·.1 == name) ↔ m ∈ fields ∧ m.1 = name := by
    intro m
    rw [List.mem_filter, beq_iff_eq]
  have hnodup : ((fields.filter (·.1 == name)).map Prod.fst).Nodup :=
    h.sublist (List.filter_sublist.map Prod.fst)
  unfold atMostOnce?
  generalize fields.filter (·.1 == name) = found at hmem hnodup
  match found with
  | [] =>
    refine .inr ⟨fun value hvalue => ?_, rfl⟩
    exact List.not_mem_nil ((hmem (name, value)).2 ⟨hvalue, rfl⟩)
  | [(key, value)] =>
    obtain ⟨hfield, rfl⟩ := (hmem (key, value)).1 List.mem_cons_self
    exact .inl ⟨value, hfield, rfl⟩
  | m :: m' :: rest =>
    -- two fields of this name, which is not repeated
    have hkey := ((hmem m).1 List.mem_cons_self).2
    have hkey' := ((hmem m').1 (List.mem_cons_of_mem m List.mem_cons_self)).2
    rw [List.map_cons, List.map_cons, hkey, hkey'] at hnodup
    exact absurd List.mem_cons_self (List.nodup_cons.1 hnodup).1

lemma atMostOnce?_of_perm {l l' : List (String × Json)} (h : l.Perm l') (name : String) :
    atMostOnce? l name = atMostOnce? l' name := by
  have hfound := h.filter (·.1 == name)
  unfold atMostOnce?
  generalize l.filter (·.1 == name) = found at hfound
  generalize l'.filter (·.1 == name) = found' at hfound
  match found, found' with
  | [], [] => rfl
  | [m], [m'] => rw [List.singleton_perm_singleton.1 hfound]
  | m :: n :: rest, m' :: n' :: rest' => rfl
  | [], _ :: _ => cases hfound.length_eq
  | _ :: _, [] => cases hfound.length_eq
  | [_], _ :: _ :: _ => cases hfound.length_eq
  | _ :: _ :: _, [_] => cases hfound.length_eq

lemma atMostOnce?_cons_of_ne {key name : String} (h : key ≠ name) (v : Json)
    (l : List (String × Json)) : atMostOnce? ((key, v) :: l) name = atMostOnce? l name := by
  have hfound : ((key, v) :: l).filter (·.1 == name) = l.filter (·.1 == name) :=
    List.filter_cons_of_neg (by simpa using h)
  unfold atMostOnce?
  rw [hfound]

/-- The map that members are read as. -/
def entries? (read? : Json → Option β) (members : List (String × Json)) : Option (NameMap β) := do
  return NameMap.ofList (← members.mapM fun m => (read? m.2).map (m.1, ·))

lemma mapOf?_object (read? : Json → Option β) (members : List (Option String × Json)) :
    mapOf? read? (.object members) = (keyed? members).bind (entries? read?) :=
  rfl

lemma keys_of_mapM {read? : Json → Option β} {members : List (String × Json)}
    {entries : List (String × β)}
    (h : (members.mapM fun m => (read? m.2).map (m.1, ·)) = some entries) :
    entries.map (·.1) = members.map (·.1) := by
  induction members generalizing entries with
  | nil =>
    cases h
    rfl
  | cons m rest ih =>
    rw [List.mapM_cons] at h
    obtain ⟨e, he, h⟩ := Option.bind_eq_some_iff.1 h
    obtain ⟨es, hes, h⟩ := Option.bind_eq_some_iff.1 h
    obtain ⟨v, -, rfl⟩ := Option.map_eq_some_iff.1 he
    cases h
    rw [List.map_cons, List.map_cons, ih hes]

lemma entries?_of_perm (read? : Json → Option β) {members members' : List (String × Json)}
    (h : members.Perm members') (hkeys : (members.map (·.1)).Nodup) :
    entries? read? members = entries? read? members' := by
  refine Rel.bind_eq (fun entries entries' hentries => ?_) (Rel.outcome (perm_mapM _ h))
  obtain ⟨hread, hperm⟩ := hentries
  rw [← keys_of_mapM hread] at hkeys
  exact congrArg some (NameMap.ofList_of_perm hperm hkeys)

lemma entries?_congr {read? : Json → Option β} {members members' : List (String × Json)}
    (h : List.Forall₂ (fun m m' => m.1 = m'.1 ∧ read? m.2 = read? m'.2) members members') :
    entries? read? members = entries? read? members' := by
  have hentries : (members.mapM fun m => (read? m.2).map (m.1, ·)) =
      members'.mapM fun m => (read? m.2).map (m.1, ·) := by
    induction h with
    | nil => rfl
    | cons hm _ ih => rw [List.mapM_cons, List.mapM_cons, hm.1, hm.2, ih]
  unfold entries?
  rw [hentries]

/-! ### Variants -/

/-- What is read of a JSON value: the fields of a record, or the value as it is. -/
inductive Shape where
  | value
  | record (fields : List (String × Shape))

namespace Shape

/-- What is read of the member of an object. -/
def member : Shape → Option String → Shape
  | record fields, some key => (fields.lookup key).getD value
  | _, _ => value

/-- What is read of an item of an array, which may stand for a record. -/
def item : Shape → Nat → Shape
  | record fields, i => (fields[i]?.map (·.2)).getD value
  | value, _ => value

lemma member_field {fields : List (String × Shape)} (h : (fields.map (·.1)).Nodup)
    {f : String × Shape} (hf : f ∈ fields) : (record fields).member (some f.1) = f.2 := by
  change (fields.lookup f.1).getD value = f.2
  rw [NameMap.lookup_of_nodup h hf, Option.getD_some]

end Shape

/-- A value changed into one that means the same to whoever reads a shape. -/
inductive Variant : Shape → Json → Json → Prop
  | refl {shape : Shape} (j : Json) : Variant shape j j
  | trans {shape : Shape} {j j' j'' : Json} :
    Variant shape j j' → Variant shape j' j'' → Variant shape j j''
  /-- The members of an object in another order, if no key is repeated. -/
  | reordered {shape : Shape} {members members' : List (Option String × Json)}
    (h : members.Perm members') (hkeys : (members.filterMap (·.1)).Nodup) :
    Variant shape (.object members) (.object members')
  /-- One more member, which is no field of the record. -/
  | added {fields : List (String × Shape)} {key : String} (h : key ∉ fields.map (·.1))
    (v : Json) (a b : List (Option String × Json)) :
    Variant (.record fields) (.object (a ++ b)) (.object (a ++ (some key, v) :: b))
  /-- A variant of the value of a member. -/
  | member {shape : Shape} {key : Option String} {v v' : Json}
    (a b : List (Option String × Json)) :
    Variant (shape.member key) v v' →
      Variant shape (.object (a ++ (key, v) :: b)) (.object (a ++ (key, v') :: b))
  /-- A variant of an item. -/
  | item {shape : Shape} {v v' : Json} (a b : List Json) :
    Variant (shape.item a.length) v v' →
      Variant shape (.array (a ++ v :: b)) (.array (a ++ v' :: b))

namespace Variant

lemma kind {shape : Shape} {j j' : Json} (h : Variant shape j j') :
    j = j' ∨ (∃ members members', j = .object members ∧ j' = .object members') ∨
      ∃ items items', j = .array items ∧ j' = .array items' := by
  induction h with
  | refl => exact .inl rfl
  | trans _ _ ih ih' =>
    rcases ih with rfl | ⟨_, _, rfl, rfl⟩ | ⟨_, _, rfl, rfl⟩
    · exact ih'
    · rcases ih' with rfl | ⟨_, _, -, rfl⟩ | ⟨_, _, hother, -⟩
      · exact .inr (.inl ⟨_, _, rfl, rfl⟩)
      · exact .inr (.inl ⟨_, _, rfl, rfl⟩)
      · cases hother
    · rcases ih' with rfl | ⟨_, _, hother, -⟩ | ⟨_, _, -, rfl⟩
      · exact .inr (.inr ⟨_, _, rfl, rfl⟩)
      · cases hother
      · exact .inr (.inr ⟨_, _, rfl, rfl⟩)
  | reordered | added | member => exact .inr (.inl ⟨_, _, rfl, rfl⟩)
  | item => exact .inr (.inr ⟨_, _, rfl, rfl⟩)

variable {shape : Shape} {j j' : Json} {α β : Type}

theorem text? (h : Variant shape j j') : j.text? = j'.text? := by
  rcases h.kind with rfl | ⟨_, _, rfl, rfl⟩ | ⟨_, _, rfl, rfl⟩ <;> rfl

theorem bool? (h : Variant shape j j') : j.bool? = j'.bool? := by
  rcases h.kind with rfl | ⟨_, _, rfl, rfl⟩ | ⟨_, _, rfl, rfl⟩ <;> rfl

theorem optional? {read? : Json → Option α} (h : Variant shape j j')
    (hread : read? j = read? j') : Json.optional? read? j = Json.optional? read? j' := by
  rcases h.kind with rfl | ⟨_, _, rfl, rfl⟩ | ⟨_, _, rfl, rfl⟩
  · rfl
  · exact congrArg (Option.map some) hread
  · exact congrArg (Option.map some) hread

lemma name?_of_length_ne {members : List (Option String × Json)} (h : members.length ≠ 1) :
    (Json.object members).name? = none := by
  match members with
  | [] => rfl
  | [_] => exact absurd rfl h
  | (_, v) :: _ :: _ => cases v <;> rfl

/-- A name is read from an object with one member, which has no other order. -/
theorem name? (h : Variant .value j j') : j.name? = j'.name? := by
  generalize hshape : Shape.value = shape at h
  induction h with
  | refl => rfl
  | trans _ _ ih ih' => exact (ih hshape).trans (ih' hshape)
  | @reordered _ members members' hperm _ =>
    by_cases hlength : members.length = 1
    · obtain ⟨m, rfl⟩ := List.length_eq_one_iff.1 hlength
      rw [List.singleton_perm.1 hperm]
    · rw [name?_of_length_ne hlength, name?_of_length_ne (hperm.length_eq ▸ hlength)]
  | added => cases hshape
  | @member _ key v v' a b hv _ =>
    by_cases halone : a = [] ∧ b = []
    · obtain ⟨rfl, rfl⟩ := halone
      rcases hv.kind with rfl | ⟨_, _, rfl, rfl⟩ | ⟨_, _, rfl, rfl⟩ <;> rfl
    · have hlength : ∀ v, (a ++ (key, v) :: b).length ≠ 1 := by
        intro v hone
        rw [List.length_append, List.length_cons] at hone
        exact halone ⟨List.eq_nil_of_length_eq_zero (by omega),
          List.eq_nil_of_length_eq_zero (by omega)⟩
      rw [name?_of_length_ne (hlength v), name?_of_length_ne (hlength v')]
  | item => rfl

/-- The members of an object keep their keys and order if the value of one is changed. -/
lemma keyed?_member (key : Option String) {v v' : Json} {R : String → Json → Json → Prop}
    (hrefl : ∀ name j, R name j j) (hv : ∀ name, key = some name → R name v v')
    (a b : List (Option String × Json)) :
    Option.Rel (List.Forall₂ fun m m' => m.1 = m'.1 ∧ R m.1 m.2 m'.2)
      (keyed? (a ++ (key, v) :: b)) (keyed? (a ++ (key, v') :: b)) := by
  have hsame : ∀ l : List (Option String × Json),
      List.Forall₂ (fun m m' => m.1 = m'.1 ∧ ∀ name, m.1 = some name → R name m.2 m'.2) l l :=
    fun l => List.forall₂_same.2 fun m _ => ⟨rfl, fun name _ => hrefl name m.2⟩
  refine Rel.mapM ?_ (List.rel_append (hsame a) (.cons ⟨rfl, hv⟩ (hsame b)))
  rintro ⟨key, w⟩ ⟨_, w'⟩ ⟨rfl, hw⟩
  cases key with
  | none => exact .none
  | some name => exact .some ⟨rfl, hw name rfl⟩

/-- A map has the same values whatever the order of its members. -/
theorem mapOf? {read? : Json → Option β}
    (hread : ∀ v v', Variant .value v v' → read? v = read? v') (h : Variant .value j j') :
    Json.mapOf? read? j = Json.mapOf? read? j' := by
  generalize hshape : Shape.value = shape at h
  induction h with
  | refl => rfl
  | trans _ _ ih ih' => exact (ih hshape).trans (ih' hshape)
  | @reordered _ members members' hperm hkeys =>
    -- The last of several members with one key would count, so no key may be repeated here.
    rw [mapOf?_object, mapOf?_object]
    refine Rel.bind_eq (fun keyed keyed' hkeyed => ?_) (Rel.outcome (perm_mapM _ hperm))
    obtain ⟨hmembers, hkeyed⟩ := hkeyed
    rw [← keys_of_keyed? hmembers] at hkeys
    exact entries?_of_perm read? hkeyed hkeys
  | added => cases hshape
  | @member _ key v v' a b hv _ =>
    subst hshape
    have hvalue : read? v = read? v' := by
      refine hread v v' ?_
      cases key <;> exact hv
    have hkeyed := keyed?_member key (R := fun _ w w' => read? w = read? w')
      (fun _ _ => rfl) (fun _ _ => hvalue) a b
    rw [mapOf?_object, mapOf?_object]
    refine Rel.bind_eq (fun keyed keyed' hsame => ?_) hkeyed
    exact entries?_congr hsame
  | item => rfl

/-- The values given for the fields of a record are variants of others. -/
inductive Given : List (String × Shape) → List (Option Json) → List (Option Json) → Prop
  | nil : Given [] [] []
  | cons {f : String × Shape} {fields : List (String × Shape)} {v v' : Option Json}
    {vs vs' : List (Option Json)} :
    Option.Rel (Variant f.2) v v' → Given fields vs vs' → Given (f :: fields) (v :: vs) (v' :: vs')

namespace Given

lemma refl {fields : List (String × Shape)} {vs : List (Option Json)}
    (h : vs.length = fields.length) : Given fields vs vs := by
  induction fields generalizing vs with
  | nil =>
    rw [List.eq_nil_of_length_eq_zero h]
    exact .nil
  | cons f fields ih =>
    obtain ⟨v, vs, rfl⟩ := List.exists_cons_of_length_eq_add_one h
    exact .cons (Rel.refl Variant.refl v) (ih (Nat.succ.inj h))

lemma trans {fields : List (String × Shape)} {vs vs' vs'' : List (Option Json)}
    (h : Given fields vs vs') (h' : Given fields vs' vs'') : Given fields vs vs'' := by
  induction h generalizing vs'' with
  | nil => exact h'
  | cons hv _ ih =>
    cases h' with
    | cons hv' hvs' => exact .cons (Rel.trans (fun _ _ _ hab hbc => hab.trans hbc) hv hv') (ih hvs')

lemma place {fields : List (String × Shape)} {v v' : Json} {before after : List (Option Json)}
    (hlength : (before ++ some v :: after).length = fields.length)
    (hv : Variant ((Shape.record fields).item before.length) v v') :
    Given fields (before ++ some v :: after) (before ++ some v' :: after) := by
  induction before generalizing fields with
  | nil =>
    obtain ⟨f, fields, rfl⟩ := List.exists_cons_of_length_eq_add_one hlength.symm
    exact .cons (.some hv) (refl (Nat.succ.inj hlength))
  | cons w before ih =>
    obtain ⟨f, fields, rfl⟩ := List.exists_cons_of_length_eq_add_one hlength.symm
    exact .cons (Rel.refl Variant.refl w) (ih (Nat.succ.inj hlength) hv)

lemma mapM {fields : List (String × Shape)} {find find' : String → Option (Option Json)}
    (h : ∀ f ∈ fields, Option.Rel (Option.Rel (Variant f.2)) (find f.1) (find' f.1)) :
    Option.Rel (Given fields) ((fields.map (·.1)).mapM find) ((fields.map (·.1)).mapM find') := by
  induction fields with
  | nil => exact .some .nil
  | cons f fields ih =>
    have hrest := ih fun f' hf' => h f' (List.mem_cons_of_mem f hf')
    rw [List.map_cons, List.mapM_cons, List.mapM_cons]
    refine Rel.bind (fun v v' hv => ?_) (h f List.mem_cons_self)
    exact Rel.bind (fun vs vs' hvs => .some (.cons hv hvs)) hrest

end Given

/-- The member with some name keeps its place if the value of a member is changed. -/
lemma atMostOnce?_member {keyed keyed' : List (String × Json)}
    (h : List.Forall₂ (fun m m' => m.1 = m'.1 ∧ Variant (shape.member (some m.1)) m.2 m'.2)
      keyed keyed') (name : String) :
    Option.Rel (Option.Rel (Variant (shape.member (some name))))
      (Json.atMostOnce? keyed name) (Json.atMostOnce? keyed' name) := by
  have hfound := List.rel_filter (p := (·.1 == name)) (q := (·.1 == name))
    (fun m m' hm => iff_of_eq (congrArg (fun key => (key == name) = true) hm.1)) h
  have hname : ∀ m ∈ keyed.filter (·.1 == name), m.1 = name := by
    intro m hm
    exact beq_iff_eq.1 (List.mem_filter.1 hm).2
  unfold Json.atMostOnce?
  generalize keyed.filter (·.1 == name) = found at hfound hname
  generalize keyed'.filter (·.1 == name) = found' at hfound
  match found, found', hfound with
  | [], [], _ => exact .some .none
  | [m], [m'], .cons hm _ =>
    rw [← hname m List.mem_cons_self]
    exact .some (.some hm.2)
  | _ :: _ :: _, _ :: _ :: _, _ => exact .none

/-- The values of fields, which are found among the members of objects. -/
lemma fields?_object {fields : List (String × Shape)}
    {members members' : List (Option String × Json)}
    (h : Option.Rel (fun keyed keyed' => ∀ f ∈ fields, Option.Rel (Option.Rel (Variant f.2))
        (atMostOnce? keyed f.1) (atMostOnce? keyed' f.1)) (keyed? members) (keyed? members')) :
    Option.Rel (Given fields) ((Json.object members).fields? (fields.map (·.1)))
      ((Json.object members').fields? (fields.map (·.1))) :=
  Rel.bind (fun _ _ hfind => Given.mapM hfind) h

lemma fields?_refl (fields : List (String × Shape)) (j : Json) :
    Option.Rel (Given fields) (j.fields? (fields.map (·.1))) (j.fields? (fields.map (·.1))) := by
  cases j with
  | object members =>
    exact fields?_object (Rel.refl (fun keyed f _ => Rel.refl (Rel.refl Variant.refl) _) _)
  | array items =>
    unfold Json.fields?
    dsimp only
    split_ifs with hlength
    · refine .some (.refl ?_)
      rw [List.length_map] at hlength
      rw [List.length_append, List.length_map, List.length_replicate, List.length_map]
      omega
    · exact .none
  | null | bool | number | string => exact .none

/-- The fields of an array are variants of others if one of its items is. -/
lemma fields?_item {fields : List (String × Shape)} {v v' : Json} (a b : List Json)
    (hv : Variant ((Shape.record fields).item a.length) v v') :
    Option.Rel (Given fields) ((Json.array (a ++ v :: b)).fields? (fields.map (·.1)))
      ((Json.array (a ++ v' :: b)).fields? (fields.map (·.1))) := by
  have hsame : (a ++ v' :: b).length = (a ++ v :: b).length := by
    rw [List.length_append, List.length_append, List.length_cons, List.length_cons]
  have hitems : ∀ w rest, (a ++ w :: b).map some ++ rest =
      a.map some ++ some w :: (b.map some ++ rest) := by
    intro w rest
    rw [List.map_append, List.map_cons, List.append_assoc, List.cons_append]
  unfold Json.fields?
  dsimp only
  rw [hsame]
  split_ifs with hlength
  · rw [hitems, hitems]
    refine .some (.place ?_ (by rwa [List.length_map]))
    rw [List.length_map, List.length_append, List.length_cons] at hlength
    simp only [List.length_append, List.length_map, List.length_cons, List.length_replicate]
    omega
  · exact .none

/-- The values of the fields of a record are found in each variant of it. -/
theorem fields? {fields : List (String × Shape)} (h : Variant (.record fields) j j')
    (names : List String) (hnames : fields.map (·.1) = names) (hnodup : names.Nodup) :
    Option.Rel (Given fields) (j.fields? names) (j'.fields? names) := by
  subst hnames
  generalize hshape : Shape.record fields = shape at h
  -- Whether a key is repeated does not matter here: a field is refused in any order then.
  induction h with
  | refl j => exact fields?_refl fields j
  | trans _ _ ih ih' =>
    exact Rel.trans (fun _ _ _ hab hbc => hab.trans hbc) (ih hshape) (ih' hshape)
  | reordered hperm _ =>
    refine fields?_object (Rel.mono (fun keyed keyed' hkeyed f _ => ?_) (perm_mapM _ hperm))
    rw [atMostOnce?_of_perm hkeyed]
    exact Rel.refl (Rel.refl Variant.refl) _
  | @added _ key hkey v a b =>
    cases hshape
    refine fields?_object (Rel.mono (fun keyed keyed' hkeyed f hf => ?_) (keyed?_added key v a b))
    have hne : key ≠ f.1 := by
      rintro rfl
      exact hkey (List.mem_map_of_mem hf)
    rw [atMostOnce?_of_perm hkeyed, atMostOnce?_cons_of_ne hne]
    exact Rel.refl (Rel.refl Variant.refl) _
  | @member _ key v v' a b hv _ =>
    subst hshape
    have hkeyed := keyed?_member key
      (R := fun name => Variant ((Shape.record fields).member (some name)))
      (fun _ => Variant.refl) (fun _ hname => hname ▸ hv) a b
    refine fields?_object (Rel.mono (fun keyed keyed' hkeyed f hf => ?_) hkeyed)
    have hfield := atMostOnce?_member hkeyed f.1
    rw [Shape.member_field hnodup hf] at hfield
    exact hfield
  | item a b hv _ =>
    subst hshape
    exact fields?_item a b hv

end Variant

end Json

end ApiBalancer
