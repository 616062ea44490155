/-!
# Maps keyed by names

A `NameMap β` sends finitely many texts to values. Its entries stand in the order of their keys
(code point by code point), each key once, so two maps with the same look-ups are equal
(`NameMap.ext_get?`).
-/

namespace ApiBalancer

/-- A finite map from texts to values, in the order of its keys. -/
structure NameMap (β : Type) where
  entries : List (String × β)
  sorted : entries.Pairwise (fun a b => a.1 < b.1)
deriving DecidableEq

namespace NameMap

variable {β γ : Type}

/-- Puts `v` at `k` in a list of entries, in front of the first larger key. -/
def insertEntry (k : String) (v : β) : List (String × β) → List (String × β)
  | [] => [(k, v)]
  | (k', v') :: rest =>
    if k < k' then (k, v) :: (k', v') :: rest
    else if k = k' then (k, v) :: rest
    else (k', v') :: insertEntry k v rest

theorem mem_insertEntry {k : String} {v : β} {e : String × β} {l : List (String × β)}
    (h : e ∈ insertEntry k v l) : e = (k, v) ∨ e ∈ l := by
  induction l with
  | nil => simpa [insertEntry] using h
  | cons hd tl ih =>
    obtain ⟨k', v'⟩ := hd
    rw [insertEntry] at h
    split at h
    · simpa using h
    · split at h
      · simp only [List.mem_cons] at h ⊢
        exact h.imp_right Or.inr
      · simp only [List.mem_cons] at h ⊢
        rcases h with h | h
        · exact Or.inr (Or.inl h)
        · exact (ih h).imp_right Or.inr

theorem pairwise_insertEntry (k : String) (v : β) {l : List (String × β)}
    (h : l.Pairwise (fun a b => a.1 < b.1)) :
    (insertEntry k v l).Pairwise (fun a b => a.1 < b.1) := by
  induction l with
  | nil => simp [insertEntry]
  | cons hd tl ih =>
    obtain ⟨k', v'⟩ := hd
    obtain ⟨hhd, htl⟩ := List.pairwise_cons.1 h
    rw [insertEntry]
    split
    · next hlt =>
      refine List.pairwise_cons.2 ⟨fun b hb => ?_, h⟩
      rcases List.mem_cons.1 hb with rfl | hb
      · exact hlt
      · exact String.lt_trans hlt (hhd b hb)
    · next hnlt =>
      split
      · next heq => exact List.pairwise_cons.2 ⟨fun b hb => heq ▸ hhd b hb, htl⟩
      · next hne =>
        refine List.pairwise_cons.2 ⟨fun b hb => ?_, ih htl⟩
        rcases mem_insertEntry hb with rfl | hb
        · rcases String.le_total k k' with hle | hle
          · exact absurd (String.le_antisymm hle (String.not_lt.1 hnlt)) hne
          · exact Decidable.byContradiction fun hn =>
              hne (String.le_antisymm (String.not_lt.1 hn) hle)
        · exact hhd b hb

def empty : NameMap β := ⟨[], List.Pairwise.nil⟩

instance : EmptyCollection (NameMap β) := ⟨empty⟩

instance : Inhabited (NameMap β) := ⟨∅⟩

/-- Sends `k` to `v`, and every other key where it went before. -/
def insert (m : NameMap β) (k : String) (v : β) : NameMap β :=
  ⟨insertEntry k v m.entries, pairwise_insertEntry k v m.sorted⟩

def erase (m : NameMap β) (k : String) : NameMap β :=
  ⟨m.entries.filter (fun e => e.1 != k), m.sorted.filter _⟩

def get? (m : NameMap β) (k : String) : Option β := m.entries.lookup k

def contains (m : NameMap β) (k : String) : Bool := (m.get? k).isSome

def modify (m : NameMap β) (k : String) (f : β → β) : NameMap β :=
  match m.get? k with
  | some v => m.insert k (f v)
  | none => m

def keys (m : NameMap β) : List String := m.entries.map (·.1)

def values (m : NameMap β) : List β := m.entries.map (·.2)

/-- The keys with their values, in increasing order of the keys. -/
def toList (m : NameMap β) : List (String × β) := m.entries

def size (m : NameMap β) : Nat := m.entries.length

def isEmpty (m : NameMap β) : Bool := m.entries.isEmpty

/-- The map of a list of pairs; of several pairs with one key the last counts. -/
def ofList (l : List (String × β)) : NameMap β := l.foldl (fun m e => m.insert e.1 e.2) ∅

def map (f : β → γ) (m : NameMap β) : NameMap γ :=
  ⟨m.entries.map fun e => (e.1, f e.2), List.pairwise_map.2 m.sorted⟩

/-! ### Look-ups -/

theorem lookup_insertEntry_self (k : String) (v : β) (l : List (String × β)) :
    (insertEntry k v l).lookup k = some v := by
  induction l with
  | nil => simp [insertEntry]
  | cons hd tl ih =>
    obtain ⟨k', v'⟩ := hd
    rw [insertEntry]
    split
    · simp
    · split
      · simp
      · next hne =>
        have hb : (k == k') = false := by simpa using hne
        simp [List.lookup_cons, hb, ih]

theorem lookup_insertEntry_of_ne {k k' : String} (h : k' ≠ k) (v : β) (l : List (String × β)) :
    (insertEntry k v l).lookup k' = l.lookup k' := by
  have hb : (k' == k) = false := by simpa using h
  induction l with
  | nil => simp [insertEntry, List.lookup_cons, hb]
  | cons hd tl ih =>
    obtain ⟨k'', v''⟩ := hd
    rw [insertEntry]
    split
    · simp [List.lookup_cons, hb]
    · split
      · next heq => subst heq; simp [List.lookup_cons, hb]
      · simp [List.lookup_cons, ih]

@[simp] theorem get?_empty (k : String) : (∅ : NameMap β).get? k = none := rfl

@[simp] theorem get?_insert_self (m : NameMap β) (k : String) (v : β) :
    (m.insert k v).get? k = some v :=
  lookup_insertEntry_self k v m.entries

theorem get?_insert_of_ne {k k' : String} (h : k' ≠ k) (m : NameMap β) (v : β) :
    (m.insert k v).get? k' = m.get? k' :=
  lookup_insertEntry_of_ne h v m.entries

theorem get?_insert (m : NameMap β) (k k' : String) (v : β) :
    (m.insert k v).get? k' = if k' = k then some v else m.get? k' := by
  split
  · next h => rw [h, get?_insert_self]
  · next h => exact get?_insert_of_ne h m v

theorem mem_entries_iff (m : NameMap β) (k : String) (v : β) :
    (k, v) ∈ m.entries ↔ m.get? k = some v := by
  obtain ⟨l, h⟩ := m
  simp only [get?]
  induction l with
  | nil => simp
  | cons hd tl ih =>
    obtain ⟨k', v'⟩ := hd
    obtain ⟨hhd, htl⟩ := List.pairwise_cons.1 h
    by_cases hk : k = k'
    · subst hk
      simp only [List.mem_cons, Prod.mk.injEq, true_and, List.lookup_cons, beq_self_eq_true]
      constructor
      · rintro (rfl | hmem)
        · rfl
        · exact absurd (hhd _ hmem) (String.lt_irrefl _)
      · intro h
        exact Or.inl (Option.some.inj h).symm
    · have hb : (k == k') = false := by simpa using hk
      simp only [List.mem_cons, Prod.mk.injEq, hk, false_and, false_or, List.lookup_cons, hb]
      exact ih htl

theorem get?_erase (m : NameMap β) (k k' : String) :
    (m.erase k).get? k' = if k' = k then none else m.get? k' := by
  apply Option.ext
  intro v
  rw [← mem_entries_iff]
  simp only [erase, List.mem_filter, bne_iff_ne, ne_eq]
  rw [mem_entries_iff]
  by_cases h : k' = k <;> simp [h]

theorem get?_foldl_insert (l : List γ) (key : γ → String) (f : String → β) (m : NameMap β)
    (k : String) :
    (l.foldl (fun m x => m.insert (key x) (f (key x))) m).get? k =
      if k ∈ l.map key then some (f k) else m.get? k := by
  induction l generalizing m with
  | nil => rfl
  | cons x rest ih =>
    rw [List.foldl_cons, ih, get?_insert]
    by_cases hx : k = key x
    · simp [hx]
    · simp [hx]

/-- The look-ups in the map of a list in which the keys determine the values. -/
theorem get?_ofList_map (l : List γ) (key : γ → String) (f : String → β) (k : String) :
    (ofList (l.map fun x => (key x, f (key x)))).get? k =
      if k ∈ l.map key then some (f k) else none := by
  unfold ofList
  rw [List.foldl_map]
  exact get?_foldl_insert l key f ∅ k

/-- The map of a list sends a key to the last value that the list has for it. -/
theorem get?_ofList (l : List (String × β)) (k : String) :
    (ofList l).get? k = l.reverse.lookup k := by
  have hfold : ∀ m : NameMap β, (l.foldl (fun m e => m.insert e.1 e.2) m).get? k =
      (l.reverse.lookup k).or (m.get? k) := by
    induction l with
    | nil => exact fun m => rfl
    | cons e rest ih =>
      obtain ⟨key, v⟩ := e
      intro m
      rw [List.foldl_cons, ih, get?_insert, List.reverse_cons, List.lookup_append, Option.or_assoc,
        List.lookup_cons, List.lookup_nil]
      by_cases hk : k = key
      · simp [hk]
      · have hb : (k == key) = false := by simpa using hk
        simp [hk, hb]
  have hget := hfold ∅
  rw [get?_empty, Option.or_none] at hget
  exact hget

theorem get?_ofList_last (l : List γ) (key : γ → String) (value : γ → β) (k : String) :
    (ofList (l.map fun x => (key x, value x))).get? k =
      ((l.filter fun x => key x = k).getLast?).map value := by
  rw [get?_ofList, ← List.map_reverse, ← List.head?_reverse, ← List.filter_reverse]
  induction l.reverse with
  | nil => rfl
  | cons x rest ih =>
    rw [List.map_cons, List.lookup_cons, List.filter_cons]
    by_cases hsame : key x = k
    · simp [hsame]
    · have hother : (k == key x) = false := beq_eq_false_iff_ne.2 (Ne.symm hsame)
      rw [hother, ih, if_neg (by simpa using hsame)]

theorem mem_keys_iff (m : NameMap β) (k : String) : k ∈ m.keys ↔ ∃ v, m.get? k = some v := by
  unfold keys
  rw [List.mem_map]
  constructor
  · rintro ⟨⟨name, v⟩, hmem, rfl⟩
    exact ⟨v, (mem_entries_iff _ _ _).1 hmem⟩
  · rintro ⟨v, hv⟩
    exact ⟨(k, v), (mem_entries_iff _ _ _).2 hv, rfl⟩

theorem nodup_keys (m : NameMap β) : m.keys.Nodup := by
  unfold keys
  refine List.pairwise_map.2 (m.sorted.imp fun {a b} hlt heq => ?_)
  rw [heq] at hlt
  exact String.lt_irrefl _ hlt

/-- The map of a list has the list's keys. -/
theorem mem_keys_ofList (l : List γ) (key : γ → String) (value : γ → β) (k : String) :
    k ∈ (ofList (l.map fun x => (key x, value x))).keys ↔ k ∈ l.map key := by
  have hkey : ∀ x, x ∈ l.filter (fun x => key x = k) ↔ x ∈ l ∧ key x = k := by simp
  rw [mem_keys_iff, get?_ofList_last, List.mem_map]
  simp only [Option.map_eq_some_iff]
  constructor
  · rintro ⟨_, x, hx, -⟩
    exact ⟨x, (hkey x).1 (List.mem_of_getLast? hx)⟩
  · rintro ⟨x, hx⟩
    have hne : l.filter (fun x => key x = k) ≠ [] := List.ne_nil_of_mem ((hkey x).2 hx)
    exact ⟨_, _, List.getLast?_eq_some_getLast hne, rfl⟩

theorem ext_get? {m n : NameMap β} (h : ∀ k, m.get? k = n.get? k) : m = n := by
  have hmem : ∀ e, e ∈ m.entries ↔ e ∈ n.entries := by
    rintro ⟨k, v⟩
    rw [mem_entries_iff, mem_entries_iff, h k]
  obtain ⟨l, hl⟩ := m
  obtain ⟨l', hl'⟩ := n
  simp only at hmem
  have : l = l' := by
    clear h
    induction l generalizing l' with
    | nil =>
      cases l' with
      | nil => rfl
      | cons e es => exact absurd ((hmem e).2 List.mem_cons_self) (by simp)
    | cons a as ih =>
      obtain ⟨ha, has⟩ := List.pairwise_cons.1 hl
      cases l' with
      | nil => exact absurd ((hmem a).1 List.mem_cons_self) (by simp)
      | cons b bs =>
        obtain ⟨hb, hbs⟩ := List.pairwise_cons.1 hl'
        have hab : a = b := by
          rcases List.mem_cons.1 ((hmem a).1 List.mem_cons_self) with hab | hab
          · exact hab
          · rcases List.mem_cons.1 ((hmem b).2 List.mem_cons_self) with hba | hba
            · exact hba.symm
            · exact absurd (String.lt_trans (hb a hab) (ha b hba)) (String.lt_irrefl _)
        subst hab
        have hrest : ∀ e, e ∈ as ↔ e ∈ bs := by
          intro e
          constructor
          · intro he
            rcases List.mem_cons.1 ((hmem e).1 (List.mem_cons_of_mem _ he)) with heq | h'
            · exact absurd (heq ▸ ha e he) (String.lt_irrefl _)
            · exact h'
          · intro he
            rcases List.mem_cons.1 ((hmem e).2 (List.mem_cons_of_mem _ he)) with heq | h'
            · exact absurd (heq ▸ hb e he) (String.lt_irrefl _)
            · exact h'
        rw [ih has bs hbs hrest]
  subst this
  rfl

theorem insert_insert (m : NameMap β) (k : String) (v v' : β) :
    (m.insert k v).insert k v' = m.insert k v' := by
  apply ext_get?
  intro k'
  rw [get?_insert, get?_insert, get?_insert]
  split <;> rfl

theorem insert_of_get? {m : NameMap β} {k : String} {v : β} (h : m.get? k = some v) :
    m.insert k v = m := by
  apply ext_get?
  intro k'
  rw [get?_insert]
  split
  · next hk => rw [hk, h]
  · rfl

theorem lookup_map (f : β → γ) (l : List (String × β)) (k : String) :
    (l.map fun e => (e.1, f e.2)).lookup k = (l.lookup k).map f := by
  induction l with
  | nil => rfl
  | cons e rest ih =>
    rw [List.map_cons, List.lookup_cons, List.lookup_cons]
    split
    · rfl
    · exact ih

theorem get?_map (f : β → γ) (m : NameMap β) (k : String) :
    (m.map f).get? k = (m.get? k).map f :=
  lookup_map f m.entries k

theorem map_insert (f : β → γ) (m : NameMap β) (k : String) (v : β) :
    (m.insert k v).map f = (m.map f).insert k (f v) := by
  apply ext_get?
  intro k'
  rw [get?_map, get?_insert, get?_insert, get?_map]
  split <;> rfl

theorem map_erase (f : β → γ) (m : NameMap β) (k : String) :
    (m.erase k).map f = (m.map f).erase k := by
  apply ext_get?
  intro k'
  rw [get?_map, get?_erase, get?_erase, get?_map]
  split <;> rfl

theorem map_ofList (f : β → γ) (l : List (String × β)) :
    (ofList l).map f = ofList (l.map fun e => (e.1, f e.2)) := by
  apply ext_get?
  intro k
  rw [get?_map, get?_ofList, get?_ofList, ← List.map_reverse, lookup_map]

theorem values_map (f : β → γ) (m : NameMap β) : (m.map f).values = m.values.map f := by
  simp [map, values]

end NameMap

end ApiBalancer
