import ApiBalancer.Proofs.JsonVariants
import ApiBalancer.Proofs.RefusedBackends
import Mathlib.Data.List.Dedup

/-!
# Backends from records

A set of backends is made of a list of records at once, and of several records with one name the
last counts. `BackendSet.collects_last_records` says what the set then holds, however it is looked
at: by name, in order, by its endpoints alone, or by its size.
-/

namespace ApiBalancer.BackendSet

open ProxyDocument

/-- The names of the backends, in increasing order. -/
def names (s : BackendSet) : List String := s.toList.map (·.1)

lemma mem_names_ofList (records : List Backend) (name : String) :
    name ∈ (ofList records).names ↔ name ∈ records.map (·.name) :=
  NameMap.mem_keys_ofList records Backend.name Backend.endpoint name

/-- The names of a set of records are the distinct names of the records. -/
lemma names_perm (records : List Backend) :
    (ofList records).names.Perm (records.map (·.name)).dedup := by
  refine (List.perm_ext_iff_of_nodup (NameMap.nodup_keys _) (List.nodup_dedup _)).2 fun name => ?_
  rw [List.mem_dedup]
  exact mem_names_ofList records name

lemma size_ofList (records : List Backend) :
    (ofList records).size = (records.map (·.name)).dedup.length := by
  rw [← (names_perm records).length_eq, names, List.length_map]
  rfl

lemma isEmpty_ofList (records : List Backend) :
    (ofList records).isEmpty = true ↔ records = [] := by
  have hempty : (ofList records).isEmpty = true ↔ (ofList records).names = [] := by
    rw [names, List.map_eq_nil_iff]
    exact List.isEmpty_iff
  rw [hempty, List.eq_nil_iff_forall_not_mem]
  simp only [mem_names_ofList]
  rw [← List.eq_nil_iff_forall_not_mem, List.map_eq_nil_iff]

lemma get?_eq_none_iff (s : BackendSet) (name : String) :
    s.get? name = none ↔ name ∉ s.names := by
  have hnames : name ∈ s.names ↔ ∃ endpoint, s.get? name = some endpoint :=
    NameMap.mem_keys_iff s.byName name
  rw [hnames, ← Option.ne_none_iff_exists', not_not]

lemma ofList_toList (s : BackendSet) : ofList (s.toList.map fun b => ⟨b.1, b.2⟩) = s := by
  unfold ofList
  rw [List.map_map]
  change (⟨NameMap.ofList (s.byName.toList.map id)⟩ : BackendSet) = s
  rw [List.map_id, NameMap.ofList_toList]

/-- A set of records holds the last record of each name and nothing else: its entries stand in the
order of the names, each name once; a name is looked up to the endpoint of the last record that has
it, and to nothing if there is none; the endpoints alone stand in the same order; and the size is
the number of distinct names. The order of records with different names does not show, and the
entries of a set make the same set again. -/
theorem collects_last_records (records : List Backend) :
    let s := ofList records
    let given := records.map (·.name)
    s.names.Pairwise (· < ·) ∧
    (∀ name, name ∈ s.names ↔ name ∈ given) ∧
    (∀ name, s.get? name = (lastRecord? name records).map (·.endpoint)) ∧
    (∀ name, s.get? name = none ↔ name ∉ given) ∧
    (∀ name endpoint, (name, endpoint) ∈ s.toList ↔ s.get? name = some endpoint) ∧
    s.endpoints = s.toList.map (·.2) ∧
    s.size = given.dedup.length ∧
    (s.isEmpty = true ↔ records = []) ∧
    (∀ records' : List Backend, records.Perm records' → given.Nodup → ofList records' = s) ∧
    ofList (s.toList.map fun b => ⟨b.1, b.2⟩) = s := by
  intro s given
  refine ⟨List.pairwise_map.2 s.byName.sorted, mem_names_ofList records, get?_ofList records,
    fun name => ?_, fun name endpoint => mem_toList, rfl, size_ofList records,
    isEmpty_ofList records, fun records' hperm hnodup => ?_, ofList_toList s⟩
  · rw [get?_eq_none_iff, mem_names_ofList]
  · exact (ofList_eq (lastRecord?_perm hperm hnodup)).symm

/-- Three records of two names, and two records in either order. -/
theorem repeated_names_collected :
    let records : List Backend := [⟨"é", "a:1"⟩, ⟨"Z", "10.0.0.1:6443"⟩, ⟨"é", "[::2]:6443"⟩]
    (ofList records).get? "é" = some "[::2]:6443" ∧ (ofList records).size = 2 ∧
      ofList [⟨"é", "a:1"⟩, ⟨"Z", "b:2"⟩] = ofList [⟨"Z", "b:2"⟩, ⟨"é", "a:1"⟩] := by
  intro records
  obtain ⟨-, -, hget, -, -, -, hsize, -⟩ := collects_last_records records
  obtain ⟨-, -, -, -, -, -, -, -, hperm, -⟩ :=
    collects_last_records [⟨"Z", "b:2"⟩, ⟨"é", "a:1"⟩]
  refine ⟨hget "é", hsize, hperm _ (List.Perm.swap _ _ _) (by decide)⟩

end ApiBalancer.BackendSet
