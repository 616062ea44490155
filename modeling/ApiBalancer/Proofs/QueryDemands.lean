import ApiBalancer.Engine.Docker
import ApiBalancer.Proofs.Histories
import ApiBalancer.Proofs.InventoryRun
import Mathlib.Data.List.Basic

/-!
# Queries made step by step

A query is made by one demand after another, on the cluster, on the role, or on any label, those of
the cluster and the role among them. A later demand on a label takes the place of an earlier one, so
a query stands for the values last demanded: `LabelQuery.means_last_demands` says so of what it
matches, of how it is listed and of which queries are equal.
-/

namespace ApiBalancer.LabelQuery

/-- What is asked of a container in one step. -/
inductive Demand where
  | cluster (name : String)
  | role (role : Role)
  | label (key value : String)

/-- The label that a demand is on. -/
def Demand.key : Demand → String
  | .cluster _ => Label.cluster
  | .role _ => Label.role
  | .label key _ => key

/-- The value that the label is to have. -/
def Demand.value : Demand → String
  | .cluster name => name
  | .role r => r.name
  | .label _ value => value

/-- The value that a label is to have, if the demand is on it. -/
def Demand.value? (key : String) (d : Demand) : Option String :=
  if d.key = key then some d.value else none

/-- The query with one more demand. -/
def demand (q : LabelQuery) : Demand → LabelQuery
  | .cluster name => q.withCluster name
  | .role r => q.withRole r
  | .label key value => q.withLabel key value

/-- The query of demands that are made one after another. -/
def ofDemands (demands : List Demand) : LabelQuery := demands.foldl demand {}

/-- The value last demanded of a label. -/
def lastValue? (key : String) (demands : List Demand) : Option String :=
  lastOf (Demand.value? key) demands

variable {demands demands' : List Demand} {labels labels' : Labels} {key value : String}

lemma lastValue?_concat (key : String) (demands : List Demand) (d : Demand) :
    lastValue? key (demands ++ [d]) =
      if d.key = key then some d.value else lastValue? key demands := by
  unfold lastValue?
  rw [lastOf_concat, Demand.value?]
  split <;> rfl

lemma exists_lastValue_iff :
    (∃ value, lastValue? key demands = some value) ↔ key ∈ demands.map Demand.key := by
  induction demands using List.reverseRecOn with
  | nil => simp [lastValue?]
  | append_singleton demands d ih =>
    rw [lastValue?_concat, List.map_append, List.mem_append, ← ih]
    by_cases hkey : d.key = key
    · simp [hkey]
    · simp [hkey, Ne.symm hkey]

lemma lastValue?_eq_none (h : key ∉ demands.map Demand.key) : lastValue? key demands = none := by
  rw [← exists_lastValue_iff, ← Option.ne_none_iff_exists', not_not] at h
  exact h

lemma required_demand (q : LabelQuery) (d : Demand) :
    (q.demand d).required = q.required.insert d.key d.value := by
  cases d <;> rfl

lemma get?_ofDemands (demands : List Demand) (key : String) :
    (ofDemands demands).required.get? key = lastValue? key demands := by
  induction demands using List.reverseRecOn with
  | nil => rfl
  | append_singleton demands d ih =>
    have hstep : ofDemands (demands ++ [d]) = (ofDemands demands).demand d := List.foldl_concat ..
    rw [hstep, required_demand, NameMap.get?_insert, ih, lastValue?_concat]
    simp only [eq_comm]

lemma mem_toList_ofDemands :
    (key, value) ∈ (ofDemands demands).toList ↔ lastValue? key demands = some value := by
  rw [← get?_ofDemands]
  exact NameMap.mem_entries_iff _ _ _

lemma mem_names_ofDemands :
    key ∈ (ofDemands demands).toList.map (·.1) ↔ key ∈ demands.map Demand.key := by
  rw [← exists_lastValue_iff, ← get?_ofDemands]
  exact NameMap.mem_keys_iff _ _

lemma ofDemands_eq_iff :
    ofDemands demands' = ofDemands demands ↔
      ∀ key, lastValue? key demands' = lastValue? key demands := by
  simp only [← get?_ofDemands]
  exact ⟨fun h key => by rw [h], fun h => congrArg mk (NameMap.ext_get? h)⟩

/-! ### What a query matches -/

lemma matches_ofDemands :
    (ofDemands demands).Matches labels ↔
      ∀ key value, lastValue? key demands = some value → labels.get? key = some value := by
  constructor
  · exact fun h key value hlast => h (key, value) (mem_toList_ofDemands.2 hlast)
  · exact fun h e he => h e.1 e.2 (mem_toList_ofDemands.1 he)

lemma matches_congr (h : ∀ key ∈ demands.map Demand.key, labels.get? key = labels'.get? key) :
    (ofDemands demands).Matches labels ↔ (ofDemands demands).Matches labels' := by
  rw [matches_ofDemands, matches_ofDemands]
  refine forall_congr' fun key => forall_congr' fun value => imp_congr_right fun hlast => ?_
  rw [h key (exists_lastValue_iff.1 ⟨value, hlast⟩)]

lemma matches_concat {d : Demand} (h : d.key ∉ demands.map Demand.key) :
    (ofDemands (demands ++ [d])).Matches labels ↔
      (ofDemands demands).Matches labels ∧ labels.get? d.key = some d.value := by
  have hnone := lastValue?_eq_none h
  simp only [matches_ofDemands, lastValue?_concat]
  constructor
  · refine fun hall => ⟨fun key value hlast => hall key value ?_, hall _ _ (if_pos rfl)⟩
    rw [if_neg, hlast]
    rintro rfl
    rw [hnone] at hlast
    cases hlast
  · rintro ⟨hbefore, hnew⟩ key value hlast
    split at hlast
    · next hkey =>
      cases hlast
      rw [← hkey, hnew]
    · exact hbefore key value hlast

lemma answering_sublist {q q' : LabelQuery} (h : ∀ labels, q'.Matches labels → q.Matches labels)
    (inv : Inventory) : (inv.answering q').Sublist (inv.answering q) :=
  List.monotone_filter_right _ fun c hc => decide_eq_true (h c.labels (of_decide_eq_true hc))

/-- A query means the last demand on each label, and all of these at once. It matches the labels
that have, for each label that a demand was on, the value last demanded of it, whatever other labels
there are; it lists these labels in order, each once and with this value; and it is equal to the
query of any other demands with the same last values. One more demand, on a label that none was on
before, leaves the containers out that do not meet it. -/
theorem means_last_demands (demands : List Demand) :
    let q := ofDemands demands
    let demanded := demands.map Demand.key
    (∀ labels : Labels, q.Matches labels ↔ ∀ key ∈ demanded,
      ∃ value, lastValue? key demands = some value ∧ labels.get? key = some value) ∧
    q.toList.Pairwise (fun e e' => e.1 < e'.1) ∧
    (∀ key, key ∈ q.toList.map (·.1) ↔ key ∈ demanded) ∧
    (∀ key value, (key, value) ∈ q.toList ↔ lastValue? key demands = some value) ∧
    (∀ demands', ofDemands demands' = q ↔
      ∀ key, lastValue? key demands' = lastValue? key demands) ∧
    (∀ demands', (∀ key, lastValue? key demands' = lastValue? key demands) →
      (ofDemands demands').text = q.text ∧
      Docker.listArguments (ofDemands demands') = Docker.listArguments q ∧
      ∀ labels, (ofDemands demands').Matches labels ↔ q.Matches labels) ∧
    (∀ labels labels' : Labels, (∀ key ∈ demanded, labels.get? key = labels'.get? key) →
      (q.Matches labels ↔ q.Matches labels')) ∧
    (∀ d : Demand, d.key ∉ demanded →
      (∀ labels : Labels, (ofDemands (demands ++ [d])).Matches labels ↔
        q.Matches labels ∧ labels.get? d.key = some d.value) ∧
      ∀ inv : Inventory,
        (inv.answering (ofDemands (demands ++ [d]))).Sublist (inv.answering q)) := by
  intro q demanded
  refine ⟨fun labels => ?_, q.required.sorted, fun key => mem_names_ofDemands,
    fun key value => mem_toList_ofDemands, fun demands' => ofDemands_eq_iff,
    fun demands' hsame => ?_, fun labels labels' => matches_congr, fun d hnew =>
      ⟨fun labels => matches_concat hnew,
        answering_sublist fun labels h => ((matches_concat hnew).1 h).1⟩⟩
  · rw [matches_ofDemands]
    constructor
    · intro h key hkey
      obtain ⟨value, hlast⟩ := exists_lastValue_iff.2 hkey
      exact ⟨value, hlast, h key value hlast⟩
    · intro h key value hlast
      obtain ⟨value', hlast', hget⟩ := h key (exists_lastValue_iff.1 ⟨value, hlast⟩)
      rw [hlast] at hlast'
      rw [Option.some.inj hlast', hget]
  · rw [ofDemands_eq_iff.2 hsame]
    exact ⟨rfl, rfl, fun _ => Iff.rfl⟩

example (cluster : String) (role : Role) :
    ofDemands [.cluster cluster, .role role] = nodes cluster role :=
  rfl

/-- The cluster and the role are demanded twice, by their own demands and as labels. -/
theorem overridden_demands_met :
    let demands : List Demand :=
      [.label Label.role "worker", .cluster "a", .label "zone" "", .label Label.cluster "b",
        .role .controlPlane]
    let labels : Labels := NameMap.ofList
      [(Label.cluster, "b"), (Label.role, "control-plane"), ("zone", ""), ("a", "b")]
    (ofDemands demands).Matches labels ∧
      (ofDemands demands).Matches (labels.insert "a" "c") ∧
      ¬(ofDemands (demands ++ [.label "a" "c"])).Matches labels ∧
      (ofDemands [.cluster "b", .role .controlPlane, .label "zone" ""]).text =
        (ofDemands demands).text := by
  intro demands labels
  obtain ⟨hmatches, -, -, -, -, hsame, hothers, hnew⟩ := means_last_demands demands
  have hlabels : (ofDemands demands).Matches labels := by
    refine (hmatches labels).2 fun key hkey => ?_
    obtain ⟨value, hlast⟩ := exists_lastValue_iff.2 hkey
    refine ⟨value, hlast, ?_⟩
    have hall : ∀ key ∈ demands.map Demand.key, labels.get? key = lastValue? key demands := by
      decide
    rw [hall key hkey, hlast]
  refine ⟨hlabels, (hothers labels (labels.insert "a" "c") (by decide)).1 hlabels, fun h => ?_,
    (hsame _ (ofDemands_eq_iff.1 (by decide))).1⟩
  obtain ⟨-, hvalue⟩ := ((hnew (.label "a" "c") (by decide)).1 labels).1 h
  revert hvalue
  decide

end ApiBalancer.LabelQuery
