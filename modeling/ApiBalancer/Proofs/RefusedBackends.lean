import ApiBalancer.Renderer
import Mathlib.Data.List.Nodup
import Mathlib.Tactic.Common

/-!
# Backends that no document can hold

A document is refused exactly if a name or an endpoint among its backends is no word of a line, and
then the first such backend in the order of the names is blamed. `refuses_first_unfit` says so of
the renderer. What is refused depends on the set alone, and so on nothing but the last record of
each name.
-/

namespace ApiBalancer

namespace ProxyDocument

/-- Whether a character is white space or a control character. -/
def Breaks (c : Char) : Prop := Text.isBlank c = true ∨ Text.isControl c = true

/-- Whether a text can be a word of a line. -/
def IsWord (s : String) : Prop := s ≠ "" ∧ ∀ c ∈ s.toList, ¬Breaks c

/-- Whether a backend can have a server line. -/
def Fit (name endpoint : String) : Prop := IsWord name ∧ IsWord endpoint

/-- Why a backend can have no server line. The endpoint is to blame only if the name is not. -/
inductive Blames (name endpoint : String) : String → Prop
  | emptyName : name = "" → Blames name endpoint "empty name"
  | brokenName (c : Char) : c ∈ name.toList → Breaks c →
    Blames name endpoint "name contains whitespace"
  | emptyEndpoint : IsWord name → endpoint = "" → Blames name endpoint "empty endpoint"
  | brokenEndpoint (c : Char) : IsWord name → c ∈ endpoint.toList → Breaks c →
    Blames name endpoint "endpoint contains whitespace"

variable {w : Word} {s name endpoint reason : String}

lemma defect?_empty (w : Word) : defect? w "" = some (.empty w) := rfl

lemma defect?_of_breaks {c : Char} (hc : c ∈ s.toList) (hbreaks : Breaks c) :
    defect? w s = some (.blank w) := by
  have hne : s.isEmpty = false := by
    cases hempty : s.isEmpty with
    | false => rfl
    | true =>
      rw [String.isEmpty_iff.1 hempty] at hc
      cases hc
  have hany : s.toList.any (fun c => Text.isBlank c || Text.isControl c) = true :=
    List.any_eq_true.2 ⟨c, hc, Bool.or_eq_true_iff.2 hbreaks⟩
  unfold defect?
  rw [hne, if_neg Bool.false_ne_true, if_pos hany]

lemma defect?_of_isWord (h : IsWord s) : defect? w s = none := by
  have hempty : ¬s.isEmpty = true := fun hempty => h.1 (String.isEmpty_iff.1 hempty)
  have hany : ¬s.toList.any (fun c => Text.isBlank c || Text.isControl c) = true := by
    intro hany
    obtain ⟨c, hc, hbreaks⟩ := List.any_eq_true.1 hany
    exact h.2 c hc (Bool.or_eq_true_iff.1 hbreaks)
  unfold defect?
  rw [if_neg hempty, if_neg hany]

/-- A text is a word, or it is empty, or it holds a character that breaks it. -/
lemma word_cases (s : String) : IsWord s ∨ s = "" ∨ ∃ c ∈ s.toList, Breaks c := by
  by_cases hempty : s = ""
  · exact .inr (.inl hempty)
  by_cases hbroken : ∃ c ∈ s.toList, Breaks c
  · exact .inr (.inr hbroken)
  · exact .inl ⟨hempty, fun c hc hbreaks => hbroken ⟨c, hc, hbreaks⟩⟩

/-- The reason for which a backend is refused, if it is. -/
def refusal? (name endpoint : String) : Option String :=
  (backendDefect? name endpoint).map Defect.text

lemma refusal?_of_fit (h : Fit name endpoint) : refusal? name endpoint = none := by
  unfold refusal? backendDefect?
  rw [defect?_of_isWord h.1, defect?_of_isWord h.2]
  rfl

lemma refusal?_of_blames (h : Blames name endpoint reason) :
    refusal? name endpoint = some reason := by
  unfold refusal? backendDefect?
  cases h with
  | emptyName hname =>
    rw [hname, defect?_empty]
    rfl
  | brokenName c hc hbreaks =>
    rw [defect?_of_breaks hc hbreaks]
    rfl
  | emptyEndpoint hname hendpoint =>
    rw [defect?_of_isWord hname, hendpoint, defect?_empty]
    rfl
  | brokenEndpoint c hname hc hbreaks =>
    rw [defect?_of_isWord hname, defect?_of_breaks hc hbreaks]
    rfl

lemma fit_or_blames (name endpoint : String) :
    Fit name endpoint ∨ ∃ reason, Blames name endpoint reason := by
  rcases word_cases name with hname | rfl | ⟨c, hc, hbreaks⟩
  · rcases word_cases endpoint with hendpoint | rfl | ⟨c, hc, hbreaks⟩
    · exact .inl ⟨hname, hendpoint⟩
    · exact .inr ⟨_, .emptyEndpoint hname rfl⟩
    · exact .inr ⟨_, .brokenEndpoint c hname hc hbreaks⟩
  · exact .inr ⟨_, .emptyName rfl⟩
  · exact .inr ⟨_, .brokenName c hc hbreaks⟩

lemma refusal?_eq_none_iff : refusal? name endpoint = none ↔ Fit name endpoint := by
  refine ⟨fun h => ?_, refusal?_of_fit⟩
  rcases fit_or_blames name endpoint with hfit | ⟨reason, hblames⟩
  · exact hfit
  · rw [refusal?_of_blames hblames] at h
    cases h

lemma refusal?_eq_some_iff :
    refusal? name endpoint = some reason ↔ Blames name endpoint reason := by
  refine ⟨fun h => ?_, refusal?_of_blames⟩
  rcases fit_or_blames name endpoint with hfit | ⟨reason', hblames⟩
  · rw [refusal?_of_fit hfit] at h
    cases h
  · rw [refusal?_of_blames hblames] at h
    cases h
    exact hblames

/-! ### Sets of backends -/

/-- In a list in the order of its keys the first hit is the one with the least key. -/
lemma findSome?_eq_some_iff_least {β γ : Type} {l : List (String × β)}
    (hsorted : l.Pairwise fun a b => a.1 < b.1) {f : String × β → Option γ} {v : γ} :
    l.findSome? f = some v ↔ ∃ b ∈ l, f b = some v ∧ ∀ x ∈ l, x.1 < b.1 → f x = none := by
  rw [List.findSome?_eq_some_iff]
  constructor
  · rintro ⟨before, b, after, rfl, hb, hbefore⟩
    refine ⟨b, by simp, hb, fun x hx hless => ?_⟩
    rcases List.mem_append.1 hx with hx | hx
    · exact hbefore x hx
    · have hafter : ∀ y ∈ after, b.1 < y.1 := (List.pairwise_cons.1
        (List.pairwise_append.1 hsorted).2.1).1
      rcases List.mem_cons.1 hx with rfl | hx
      · exact (String.lt_irrefl _ hless).elim
      · exact (String.lt_asymm hless (hafter x hx)).elim
  · rintro ⟨b, hmem, hb, hless⟩
    obtain ⟨before, after, rfl⟩ := List.append_of_mem hmem
    refine ⟨before, b, after, rfl, hb, fun x hx => hless x (List.mem_append_left _ hx) ?_⟩
    exact (List.pairwise_append.1 hsorted).2.2 x hx b List.mem_cons_self

lemma mem_toList {backends : BackendSet} :
    (name, endpoint) ∈ backends.toList ↔ backends.get? name = some endpoint :=
  NameMap.mem_entries_iff _ _ _

/-- Whether a backend is the first of a set, in the order of the names, that is not fit, and the
reason why. -/
def FirstUnfit (backends : BackendSet) (e : InvalidBackend) : Prop :=
  ∃ endpoint, backends.get? e.name = some endpoint ∧ Blames e.name endpoint e.reason ∧
    ∀ name endpoint', backends.get? name = some endpoint' → name < e.name → Fit name endpoint'

lemma invalidBackend?_eq (l : List (String × String)) :
    invalidBackend? l = l.findSome? fun b => (refusal? b.1 b.2).map (InvalidBackend.mk b.1) := by
  unfold invalidBackend? refusal?
  simp only [Option.map_map]
  rfl

lemma invalidBackend?_eq_none_iff {backends : BackendSet} :
    invalidBackend? backends.toList = none ↔
      ∀ name endpoint, backends.get? name = some endpoint → Fit name endpoint := by
  simp only [invalidBackend?_eq, List.findSome?_eq_none_iff, Option.map_eq_none_iff,
    refusal?_eq_none_iff]
  exact ⟨fun h name endpoint hget => h (name, endpoint) (mem_toList.2 hget),
    fun h b hmem => h b.1 b.2 (mem_toList.1 hmem)⟩

lemma invalidBackend?_eq_some_iff {backends : BackendSet} {e : InvalidBackend} :
    invalidBackend? backends.toList = some e ↔ FirstUnfit backends e := by
  have hsorted : backends.toList.Pairwise fun a b => a.1 < b.1 := backends.byName.sorted
  rw [invalidBackend?_eq, findSome?_eq_some_iff_least hsorted]
  constructor
  · rintro ⟨⟨name, endpoint⟩, hmem, hrefused, hbefore⟩
    obtain ⟨reason, hreason, rfl⟩ := Option.map_eq_some_iff.1 hrefused
    refine ⟨endpoint, mem_toList.1 hmem, refusal?_eq_some_iff.1 hreason,
      fun name' endpoint' hget hless => ?_⟩
    have hnone := hbefore (name', endpoint') (mem_toList.2 hget) hless
    exact refusal?_eq_none_iff.1 (Option.map_eq_none_iff.1 hnone)
  · rintro ⟨endpoint, hget, hblames, hbefore⟩
    refine ⟨(e.name, endpoint), mem_toList.2 hget, ?_, fun b hmem hless => ?_⟩
    · rw [refusal?_of_blames hblames]
      rfl
    · rw [refusal?_of_fit (hbefore b.1 b.2 (mem_toList.1 hmem) hless)]
      rfl

/-- The last record of a name. -/
def lastRecord? (name : String) (records : List Backend) : Option Backend :=
  (records.filter (·.name = name)).getLast?

lemma get?_ofList (records : List Backend) (name : String) :
    (BackendSet.ofList records).get? name = (lastRecord? name records).map (·.endpoint) :=
  NameMap.get?_ofList_last records Backend.name Backend.endpoint name

/-- Lists with the same last record of each name make the same set. -/
lemma ofList_eq {records records' : List Backend}
    (h : ∀ name, lastRecord? name records = lastRecord? name records') :
    BackendSet.ofList records = BackendSet.ofList records' := by
  have hget : ∀ name, (BackendSet.ofList records).get? name =
      (BackendSet.ofList records').get? name := by
    intro name
    rw [get?_ofList, get?_ofList, h]
  exact congrArg BackendSet.mk (NameMap.ext_get? hget)

/-- If no two records have one name, the last record of a name is the one that there is. -/
lemma lastRecord?_eq_some_iff {records : List Backend} (hnodup : (records.map (·.name)).Nodup)
    {r : Backend} : lastRecord? name records = some r ↔ r ∈ records ∧ r.name = name := by
  have hmem : ∀ r', r' ∈ records.filter (·.name = name) ↔ r' ∈ records ∧ r'.name = name := by
    intro r'
    rw [List.mem_filter, decide_eq_true_eq]
  unfold lastRecord?
  constructor
  · exact fun h => (hmem r).1 (List.mem_of_getLast? h)
  · intro h
    have hne : records.filter (·.name = name) ≠ [] := List.ne_nil_of_mem ((hmem r).2 h)
    obtain ⟨hlast, hname⟩ := (hmem _).1 (List.getLast_mem hne)
    rw [List.getLast?_eq_some_getLast hne]
    exact congrArg some (List.inj_on_of_nodup_map hnodup hlast h.1 (hname.trans h.2.symm))

lemma lastRecord?_perm {records records' : List Backend} (hperm : records.Perm records')
    (hnodup : (records.map (·.name)).Nodup) (name : String) :
    lastRecord? name records = lastRecord? name records' := by
  apply Option.ext
  intro r
  rw [lastRecord?_eq_some_iff hnodup, lastRecord?_eq_some_iff ((hperm.map _).nodup_iff.1 hnodup),
    hperm.mem_iff]

end ProxyDocument

open ProxyDocument

namespace Renderer

variable {backends : BackendSet} {options : DocumentOptions}

lemma render_eq_error_iff {e : InvalidBackend} :
    proxy.render backends options = .error e ↔ FirstUnfit backends e := by
  rw [← invalidBackend?_eq_some_iff]
  change (write backends options).map String.toUTF8 = .error e ↔ _
  unfold write
  cases invalidBackend? backends.toList with
  | none => exact ⟨nofun, nofun⟩
  | some e' => exact ⟨fun h => congrArg some (Except.error.inj h), fun h => by cases h; rfl⟩

lemma render_eq_ok_iff :
    (∃ document, proxy.render backends options = .ok document) ↔
      ∀ name endpoint, backends.get? name = some endpoint → Fit name endpoint := by
  rw [← invalidBackend?_eq_none_iff]
  change (∃ document, (write backends options).map String.toUTF8 = .ok document) ↔ _
  unfold write
  cases invalidBackend? backends.toList with
  | none => exact ⟨fun _ => rfl, fun _ => ⟨_, rfl⟩⟩
  | some e => exact ⟨nofun, nofun⟩

/-- A document is made exactly if every name and every endpoint of the set is a word: not empty, and
without white space and control characters. Otherwise the backend with the least name is blamed that
is not fit, with what is wrong with the name, or else with the endpoint. Whether a document is made,
and whom the error blames, does not depend on the options, and of the records that the set was made
of it depends on the last one of each name alone: on their order it does not, if their names
differ. -/
theorem refuses_first_unfit (backends : BackendSet) (options : DocumentOptions) :
    ((∃ document, proxy.render backends options = .ok document) ↔
      ∀ name endpoint, backends.get? name = some endpoint → IsWord name ∧ IsWord endpoint) ∧
    (∀ e, proxy.render backends options = .error e ↔
      ∃ endpoint, backends.get? e.name = some endpoint ∧ Blames e.name endpoint e.reason ∧
        ∀ name endpoint', backends.get? name = some endpoint' → name < e.name →
          IsWord name ∧ IsWord endpoint') ∧
    (∀ options' e, proxy.render backends options' = .error e ↔
      proxy.render backends options = .error e) ∧
    (∀ records records' : List Backend,
      (∀ name, lastRecord? name records = lastRecord? name records') →
      proxy.render (.ofList records) options = proxy.render (.ofList records') options) ∧
    (∀ records records' : List Backend, records.Perm records' → (records.map (·.name)).Nodup →
      proxy.render (.ofList records) options = proxy.render (.ofList records') options) := by
  refine ⟨render_eq_ok_iff, fun e => render_eq_error_iff, fun options' e => ?_,
    fun records records' hlast => ?_, fun records records' hperm hnodup => ?_⟩
  · rw [render_eq_error_iff, render_eq_error_iff]
  · rw [ofList_eq hlast]
  · rw [ofList_eq (lastRecord?_perm hperm hnodup)]

/-- The order of records of one name matters: the last one counts, and only it is refused or not. -/
theorem order_within_name_matters :
    let records : List Backend := [⟨"a", ""⟩, ⟨"a", "10.0.0.1:6443"⟩]
    records.reverse.Perm records ∧
      (∃ document, proxy.render (.ofList records) {} = .ok document) ∧
      proxy.render (.ofList records.reverse) {} = .error ⟨"a", "empty endpoint"⟩ :=
  ⟨List.reverse_perm _, ⟨_, rfl⟩, rfl⟩

end Renderer

end ApiBalancer
