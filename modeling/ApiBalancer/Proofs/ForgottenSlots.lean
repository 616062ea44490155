import ApiBalancer.Proofs.Crowd
import Mathlib.Data.List.Perm.Subperm

/-!
# Forgotten slots

Forgetting a cluster takes its slot from the table, but not from the callers who have got it. Those
who come later share another slot, and work beside the former. So what a slot grants to one caller
at a time is granted, for one cluster, to one more each time the cluster is forgotten
(`Traffic.engaged_le_forgotten`), and indeed to as many
(`Traffic.forgotten_creation_goes_on`).
-/

namespace ApiBalancer

namespace Phase

variable {phase : Phase}

lemma exists_slot (h : phase.place ≠ .outside) : ∃ n, phase.slot? = some n := by
  cases hn : phase.slot? with
  | none => exact (h (Traffic.place_eq_outside hn)).elim
  | some n => exact ⟨n, rfl⟩

/-- Whoever has been at the look-up stands in or behind a line of its slot until it returns. -/
lemma place_of_toGo (h : phase.toGo ≤ 8) (hresult : phase.result? = none) :
    phase.place = .lookUp ∨ phase.place = .hall ∨ phase.place = .lockLine ∨
      phase.place = .lock := by
  cases phase with
  | arrived | missed | atSlot | waitsForLookUp =>
    exact absurd h (by simp [toGo])
  | startsLookUp | looksUp | stuckInLookUp => exact .inl rfl
  | atLock => exact .inr (.inl rfl)
  | waitsForLock => exact .inr (.inr (.inl rfl))
  | startsWork | works | stuckInWork => exact .inr (.inr (.inr rfl))
  | returned => cases hresult

lemma place_eq_lock_of_toGo (h : phase.toGo ≤ 3) (hresult : phase.result? = none) :
    phase.place = .lock := by
  cases phase with
  | startsWork | works | stuckInWork => rfl
  | returned => cases hresult
  | _ => exact absurd h (by simp [toGo])

lemma result?_of_toGo (h : 0 < phase.toGo) : phase.result? = none := by
  cases phase with
  | returned => exact absurd h (by simp [toGo])
  | _ => rfl

lemma toGo_pos (h : phase.place = .lock) : 0 < phase.toGo := by
  cases phase with
  | startsWork | works | stuckInWork => simp [toGo]
  | _ => cases h

lemma toGo_of_busy (h : phase.busy = true) : phase.toGo ≤ 8 := by
  cases phase with
  | looksUp | stuckInLookUp | works | stuckInWork => simp [toGo]
  | _ => cases h

end Phase

/-- A list has at least as many entries of a value as there are places for it. -/
lemma length_le_count {α : Type} [BEq α] [LawfulBEq α] {l : List α} {a : α} {places : List Nat}
    (hnodup : places.Nodup) (h : ∀ n ∈ places, l[n]? = some a) : places.length ≤ l.count a := by
  have hsubset : places ⊆ l.idxsOf a := by
    intro n hn
    obtain ⟨hlt, hget⟩ := List.getElem?_eq_some_iff.1 (h n hn)
    exact List.mem_idxsOf_iff_exists_getElem_pos.2 ⟨hlt, by rw [hget, beq_self_eq_true]⟩
  have hle := (List.subperm_of_subset hnodup hsubset).length_le
  rwa [List.length_idxsOf] at hle

namespace Traffic

variable {σ : Type} {t t' u : Traffic σ} {engine : Engine σ} {c : Caller} {cluster : String}
  {i j n : Nat} {owners forgotten : List String}

/-- Whether each slot has been made for the given cluster, where a cluster has had one slot more than
were taken from it if it has a slot in the table. -/
structure Owned (owners forgotten : List String) (t : Traffic σ) : Prop where
  length : owners.length = t.slots.length
  held : ∀ i d n, t.caller? i = some d → d.phase.slot? = some n → owners[n]? = some d.spec.name
  listed : ∀ cluster n, t.table.get? cluster = some n → owners[n]? = some cluster
  count : ∀ cluster,
    owners.count cluster ≤ forgotten.count cluster + (if t.tracks cluster then 1 else 0)

lemma tracks_eq (t : Traffic σ) (cluster : String) :
    t.tracks cluster = (t.table.get? cluster).isSome := rfl

lemma tracks_of_table (h : u.table = t.table) (cluster : String) :
    u.tracks cluster = t.tracks cluster := by
  rw [tracks_eq, tracks_eq, h]

lemma owner_append (hn : owners[n]? = some cluster) (owners' : List String) :
    (owners ++ owners')[n]? = some cluster := by
  have hlt := (List.getElem?_eq_some_iff.1 hn).1
  rwa [List.getElem?_append_left hlt]

/-- Callers who go onward hold slots of their clusters. -/
lemma Owned.held_of_onward (h : t.Owned owners forgotten) (honward : t.Onward u)
    {owners' : List String}
    (hlisted : ∀ cluster n, u.table.get? cluster = some n →
      (owners ++ owners')[n]? = some cluster) {d : Caller} (hd : u.caller? i = some d)
    (hn : d.phase.slot? = some n) : (owners ++ owners')[n]? = some d.spec.name := by
  obtain ⟨d₀, hd₀, hsame, hleads⟩ := honward i d hd
  have hspec : d.spec = d₀.spec := by rw [hsame]
  rcases hleads.slot n hn with hn | hn
  · rw [hspec]
    exact owner_append (h.held i d₀ n hd₀ hn) _
  · exact hlisted _ n hn

lemma Owned.goes (h : t.Owned owners forgotten) (hregular : t.Regular)
    (hc : t.caller? c.id = some c) (hgoes : t.Goes engine c t') :
    ∃ owners', t'.Owned (owners ++ owners') forgotten := by
  have honward := onward_of_goes (fun n _ => hregular.orderly n) hc hgoes
  rcases table_of_goes hgoes with ⟨htable, hlength⟩ | ⟨hnone, htable, hlength⟩
  · have hlisted : ∀ cluster n, t'.table.get? cluster = some n →
        (owners ++ [])[n]? = some cluster := by
      intro cluster n hn
      rw [htable] at hn
      exact owner_append (h.listed cluster n hn) _
    refine ⟨[], ?_, fun i d n hd hn => h.held_of_onward honward hlisted hd hn, hlisted, ?_⟩
    · rw [List.append_nil, hlength, h.length]
    · intro cluster
      rw [List.append_nil, tracks_of_table htable]
      exact h.count cluster
  · have hlisted : ∀ cluster n, t'.table.get? cluster = some n →
        (owners ++ [c.spec.name])[n]? = some cluster := by
      intro cluster n hn
      rw [htable, NameMap.get?_insert] at hn
      split at hn
      · next heq =>
        cases hn
        rw [heq, ← h.length, List.getElem?_concat_length]
      · exact owner_append (h.listed cluster n hn) _
    refine ⟨[c.spec.name], ?_, fun i d n hd hn => h.held_of_onward honward hlisted hd hn,
      hlisted, ?_⟩
    · rw [List.length_append, hlength, h.length]
      rfl
    · intro cluster
      have hcount := h.count cluster
      rw [List.count_append, tracks_eq, htable, NameMap.get?_insert]
      by_cases heq : cluster = c.spec.name
      · rw [heq, tracks_eq, hnone] at hcount
        simpa [heq] using hcount
      · have hother : ¬c.spec.name = cluster := fun heq' => heq heq'.symm
        rw [tracks_eq] at hcount
        simpa [heq, hother] using hcount

lemma Owned.cancel (h : t.Owned owners forgotten) (i : Nat) :
    (t.cancel i).Owned owners forgotten := by
  refine ⟨h.length, fun j d n hd hn => ?_, h.listed, h.count⟩
  obtain ⟨d₀, hd₀, rfl⟩ := of_caller?_cancel hd
  exact h.held j d₀ n hd₀ hn

lemma Owned.forget (h : t.Owned owners forgotten) (cluster : String) :
    (t.forget cluster).Owned owners
      (forgotten ++ if t.tracks cluster then [cluster] else []) := by
  have htable : ∀ cluster', (t.forget cluster).table.get? cluster' =
      if cluster' = cluster then none else t.table.get? cluster' :=
    NameMap.get?_erase t.table cluster
  refine ⟨h.length, h.held, fun cluster' n hn => ?_, fun cluster' => ?_⟩
  · rw [htable] at hn
    split at hn
    · cases hn
    · exact h.listed cluster' n hn
  · have hcount := h.count cluster'
    rw [List.count_append, tracks_eq (t.forget cluster), htable]
    by_cases heq : cluster' = cluster
    · rw [if_pos heq]
      rw [heq] at hcount ⊢
      cases htracks : t.tracks cluster <;> simpa [htracks] using hcount
    · rw [if_neg heq, ← tracks_eq]
      omega

lemma owned_crowd (fleet : Fleet) (s : σ) (wanted : List (ClusterSpec × Balancer.Task)) :
    (crowd fleet s wanted).Owned fleet.slots.keys [] := by
  have hget : ∀ cluster, (crowd fleet s wanted).table.get? cluster =
      if cluster ∈ fleet.slots.keys then some (fleet.slots.keys.idxOf cluster) else none :=
    NameMap.get?_ofList_zipIdx fleet.slots
  refine ⟨?_, fun i d n hd hn => ?_, fun cluster n hn => ?_, fun cluster => ?_⟩
  · change _ = (fleet.slots.values.map fun balancer => ({ balancer } : Slot)).length
    simp [NameMap.keys, NameMap.values]
  · rw [of_caller?_crowd hd] at hn
    cases hn
  · rw [hget] at hn
    split at hn
    · next hmem =>
      cases hn
      exact List.getElem?_idxOf hmem
    · cases hn
  · rw [tracks_eq, hget]
    by_cases hmem : cluster ∈ fleet.slots.keys
    · rw [if_pos hmem, List.count_eq_one_of_mem fleet.slots.nodup_keys hmem]
      simp
    · rw [if_neg hmem, List.count_eq_zero_of_not_mem hmem]
      exact Nat.zero_le _

/-- Whether a caller has the look-up or the lock of a slot for a cluster. -/
def Engaged (t : Traffic σ) (cluster : String) (i : Nat) : Prop :=
  ∃ c, t.caller? i = some c ∧ c.spec.name = cluster ∧
    (c.phase.place = .lookUp ∨ c.phase.place = .lock)

/-- Whether a caller has made a request and has not returned. -/
def InFlight (t : Traffic σ) (i : Nat) : Prop :=
  0 < requestsOf t.made i ∧ t.result? i = none

instance (t : Traffic σ) (cluster : String) (i : Nat) : Decidable (t.Engaged cluster i) :=
  decidable_of_iff ((t.caller? i).any fun c =>
    c.spec.name = cluster ∧ (c.phase.place = .lookUp ∨ c.phase.place = .lock)) (by
      simp [Engaged, Option.any_eq_true])

instance (t : Traffic σ) (i : Nat) : Decidable (t.InFlight i) :=
  inferInstanceAs (Decidable (_ ∧ _))

/-- The number of the slot that a caller has got. -/
def slotOf? (t : Traffic σ) (i : Nat) : Option Nat := (t.caller? i).bind (·.phase.slot?)

/-- An engaged caller has a slot of the cluster. -/
lemma Engaged.slot (h : t.Engaged cluster i) (howned : t.Owned owners forgotten) :
    ∃ n q, t.slotOf? i = some n ∧ owners[n]? = some cluster ∧ t.placeAt n i = some q ∧
      (q = .lookUp ∨ q = .lock) := by
  obtain ⟨c, hc, rfl, hplace⟩ := h
  have hinside : c.phase.place ≠ .outside := by
    rcases hplace with hplace | hplace <;> rw [hplace] <;> exact nofun
  obtain ⟨n, hn⟩ := Phase.exists_slot hinside
  refine ⟨n, c.phase.place, ?_, howned.held i c n hc hn, ?_, hplace⟩
  · unfold slotOf?
    rw [hc]
    exact hn
  · rw [placeAt_of_caller? hc, Phase.placeAt_self hn]

lemma Engaged.eq_of_slot (hi : t.Engaged cluster i) (hj : t.Engaged cluster j)
    (hregular : t.Regular) (howned : t.Owned owners forgotten)
    (h : t.slotOf? i = t.slotOf? j) : i = j := by
  obtain ⟨n, q, hn, howner, hq, hplace⟩ := hi.slot howned
  obtain ⟨m, q', hm, -, hq', hplace'⟩ := hj.slot howned
  obtain rfl : n = m := Option.some.inj (hn.symm.trans (h.trans hm))
  have hlt := (List.getElem?_eq_some_iff.1 howner).1
  rw [howned.length] at hlt
  have hslot := List.getElem?_eq_getElem hlt
  exact (hregular.orderly n _ hslot).eq_of_engaged hq hq' hplace hplace'

/-- As many callers at most are engaged for a cluster as it has had slots. -/
lemma engaged_le_owned (hregular : t.Regular) (howned : t.Owned owners forgotten)
    {ids : List Nat} (hnodup : ids.Nodup) (hids : ∀ i ∈ ids, t.Engaged cluster i) :
    ids.length ≤ owners.count cluster := by
  have hinj : ∀ i ∈ ids, ∀ j ∈ ids, (t.slotOf? i).getD 0 = (t.slotOf? j).getD 0 → i = j := by
    intro i hi j hj heq
    obtain ⟨n, -, hn, -⟩ := (hids i hi).slot howned
    obtain ⟨m, -, hm, -⟩ := (hids j hj).slot howned
    refine (hids i hi).eq_of_slot (hids j hj) hregular howned ?_
    rw [hn, hm] at heq ⊢
    exact congrArg some heq
  have hplaces : ∀ n ∈ ids.map fun i => (t.slotOf? i).getD 0, owners[n]? = some cluster := by
    intro n hn
    obtain ⟨i, hi, rfl⟩ := List.mem_map.1 hn
    obtain ⟨m, -, hm, howner, -⟩ := (hids i hi).slot howned
    rw [hm]
    exact howner
  have hle := length_le_count (hnodup.map_on hinj) hplaces
  rwa [List.length_map] at hle

/-! ### Runs -/

/-- What is known of a crowd wherever it has come to. -/
structure Known (forgotten : List String) (t : Traffic σ) : Prop where
  regular : t.Regular
  owned : ∃ owners, t.Owned owners forgotten
  started : ∀ entry ∈ t.made, ∀ c, t.caller? entry.1 = some c → c.phase.toGo ≤ 8

lemma Known.goes (h : t.Known forgotten) (hc : t.caller? c.id = some c)
    (hgoes : t.Goes engine c t') : t'.Known forgotten := by
  obtain ⟨owners, howned⟩ := h.owned
  obtain ⟨owners', howned'⟩ := howned.goes h.regular hc hgoes
  refine ⟨h.regular.goes hc hgoes, ⟨_, howned'⟩, fun entry hentry d hd => ?_⟩
  obtain ⟨d₀, hd₀, -, hleads⟩ := onward_of_goes (fun n _ => h.regular.orderly n) hc hgoes _ d hd
  refine Nat.le_trans hleads.toGo ?_
  obtain ⟨block, hmade, hbusy⟩ := made_of_goes hgoes
  rw [hmade] at hentry
  rcases List.mem_append.1 hentry with hentry | hentry
  · exact h.started entry hentry d₀ hd₀
  · obtain ⟨request, hrequest, rfl⟩ := List.mem_map.1 hentry
    cases hc.symm.trans hd₀
    exact Phase.toGo_of_busy (hbusy (List.ne_nil_of_mem hrequest))

lemma known_crowd (fleet : Fleet) (s : σ) (wanted : List (ClusterSpec × Balancer.Task)) :
    (crowd fleet s wanted).Known [] :=
  ⟨regular_crowd fleet s wanted, ⟨_, owned_crowd fleet s wanted⟩, nofun⟩

theorem Passes.known {start : Traffic σ} (h : start.Passes engine forgotten t)
    (hstart : start.Known []) : t.Known forgotten := by
  induction h with
  | start => exact hstart
  | step pace i woken run goes ih =>
    obtain ⟨c, hc, hgoes⟩ := goes_of_step goes
    obtain rfl := id_of_caller? hc
    exact ih.goes hc hgoes
  | cancel i run ih =>
    obtain ⟨owners, howned⟩ := ih.owned
    refine ⟨ih.regular.cancel i, ⟨owners, howned.cancel i⟩, fun entry hentry d hd => ?_⟩
    obtain ⟨d₀, hd₀, rfl⟩ := of_caller?_cancel hd
    exact ih.started entry hentry d₀ hd₀
  | forget cluster run ih =>
    obtain ⟨owners, howned⟩ := ih.owned
    exact ⟨ih.regular.forget cluster, ⟨owners, howned.forget cluster⟩, ih.started⟩

lemma Passes.trans {start : Traffic σ} {forgotten' : List String}
    (h : start.Passes engine forgotten t) (h' : t.Passes engine forgotten' u) :
    start.Passes engine (forgotten ++ forgotten') u := by
  induction h' with
  | start =>
    rw [List.append_nil]
    exact h
  | step pace i woken run goes ih => exact ih.step pace i woken goes
  | cancel i run ih => exact ih.cancel i
  | forget cluster run ih =>
    rw [← List.append_assoc]
    exact ih.forget cluster

lemma Known.engaged_le (h : t.Known forgotten) {ids : List Nat} (hnodup : ids.Nodup)
    (hids : ∀ i ∈ ids, t.Engaged cluster i) : ids.length ≤ forgotten.count cluster + 1 := by
  obtain ⟨owners, howned⟩ := h.owned
  have hle := engaged_le_owned h.regular howned hnodup hids
  have hcount := howned.count cluster
  split at hcount <;> omega

/-- As long as a cluster is not forgotten, one caller at a time is engaged for it. -/
lemma Known.eq_of_engaged (h : t.Known forgotten) (hcluster : cluster ∉ forgotten)
    (hi : t.Engaged cluster i) (hj : t.Engaged cluster j) : i = j := by
  by_contra hne
  have hids : ∀ k ∈ [i, j], t.Engaged cluster k := by
    intro k hk
    have hk : k = i ∨ k = j := by simpa using hk
    rcases hk with rfl | rfl
    · exact hi
    · exact hj
  have hnodup : [i, j].Nodup := by simpa using hne
  have hle := h.engaged_le hnodup hids
  rw [List.count_eq_zero_of_not_mem hcluster] at hle
  exact absurd hle (by simp)

lemma Passes.onward (h : t.Passes engine forgotten u) (ht : t.Regular) {d : Caller}
    (hd : u.caller? i = some d) :
    ∃ d₀, t.caller? i = some d₀ ∧ d.spec = d₀.spec ∧ d.phase.toGo ≤ d₀.phase.toGo := by
  induction h generalizing d with
  | start => exact ⟨d, hd, rfl, Nat.le_refl _⟩
  | step pace j woken run goes ih =>
    obtain ⟨c, hc, hgoes⟩ := goes_of_step goes
    obtain rfl := id_of_caller? hc
    have hregular := run.regular ht
    obtain ⟨d₁, hd₁, hsame, hleads⟩ :=
      onward_of_goes (fun n _ => hregular.orderly n) hc hgoes i d hd
    obtain ⟨d₀, hd₀, hspec, htoGo⟩ := ih hd₁
    refine ⟨d₀, hd₀, ?_, Nat.le_trans hleads.toGo htoGo⟩
    rw [hsame]
    exact hspec
  | cancel j run ih =>
    obtain ⟨d₁, hd₁, rfl⟩ := of_caller?_cancel hd
    obtain ⟨d₀, hd₀, hspec, htoGo⟩ := ih hd₁
    exact ⟨d₀, hd₀, hspec, htoGo⟩
  | forget cluster run ih => exact ih hd

/-- While a caller has the lock, nobody else makes requests for its cluster, as long as this is not
forgotten. -/
lemma Passes.made_of_lock {start : Traffic σ} {forgotten' : List String}
    (hstart : start.Known []) (h : start.Passes engine forgotten t)
    (h' : t.Passes engine forgotten' u) (hc : t.caller? i = some c)
    (hlock : c.phase.place = .lock) {d : Caller} (hd : u.caller? i = some d)
    (hlock' : d.phase.place = .lock) (hcluster : c.spec.name ∉ forgotten ++ forgotten') :
    ∃ more, u.made = t.made ++ more ∧ ∀ entry ∈ more, ∀ e, u.caller? entry.1 = some e →
      e.spec.name = c.spec.name → entry.1 = i := by
  have hregular : t.Regular := (h.known hstart).regular
  induction h' generalizing d with
  | start => exact ⟨[], (List.append_nil _).symm, nofun⟩
  | @step forgotten' u u' pace j woken run goes ih =>
    obtain ⟨b, hb, hgoes⟩ := goes_of_step goes
    obtain rfl := id_of_caller? hb
    have hknown := (h.trans run).known hstart
    have honward := onward_of_goes (fun n _ => hknown.regular.orderly n) hb hgoes
    -- whoever has the lock before and after has it meanwhile
    obtain ⟨d₁, hd₁, -, hleads⟩ := honward i d hd
    obtain ⟨d₀, hd₀, hspec, htoGo⟩ := run.onward hregular hd₁
    cases hc.symm.trans hd₀
    have hhas : d₁.phase.place = .lock := by
      refine Phase.place_eq_lock_of_toGo (Nat.le_trans htoGo (Phase.toGo_of_lock hlock)) ?_
      exact Phase.result?_of_toGo (Nat.lt_of_lt_of_le (Phase.toGo_pos hlock') hleads.toGo)
    obtain ⟨more, hmade, hmore⟩ := ih hd₁ hhas hcluster
    obtain ⟨block, hblock, hbusy⟩ := made_of_goes hgoes
    refine ⟨more ++ block.map (b.id, ·), ?_, fun entry hentry e he hname => ?_⟩
    · rw [hblock, hmade, List.append_assoc]
    · obtain ⟨e₀, he₀, hsame, -⟩ := honward _ e he
      have hname₀ : e₀.spec.name = c.spec.name := by
        rw [hsame] at hname
        exact hname
      rcases List.mem_append.1 hentry with hentry | hentry
      · exact hmore entry hentry e₀ he₀ hname₀
      · obtain ⟨request, hrequest, rfl⟩ := List.mem_map.1 hentry
        cases hb.symm.trans he₀
        have hplace := Phase.place_of_busy (hbusy (List.ne_nil_of_mem hrequest))
        refine hknown.eq_of_engaged hcluster ⟨b, hb, hname₀, hplace⟩ ⟨d₁, hd₁, ?_, .inr hhas⟩
        rw [hspec]
  | cancel j run ih =>
    obtain ⟨d₁, hd₁, rfl⟩ := of_caller?_cancel hd
    obtain ⟨more, hmade, hmore⟩ := ih hd₁ hlock' hcluster
    refine ⟨more, hmade, fun entry hentry e he hname => ?_⟩
    obtain ⟨e₀, he₀, rfl⟩ := of_caller?_cancel he
    exact hmore entry hentry e₀ he₀ hname
  | forget cluster run ih =>
    refine ih hd hlock' fun hmem => hcluster ?_
    rw [← List.append_assoc]
    exact List.mem_append_left _ hmem

/-- However the steps of callers interleave, and whatever is forgotten meanwhile, only so many are
engaged for a cluster as it was forgotten, and one more. Those who have made requests and are not
engaged wait for the lock. As long as a cluster is not forgotten, nobody makes requests for it while
another has the lock. -/
theorem engaged_le_forgotten (engine : Engine σ) (fleet : Fleet) (s : σ)
    (wanted : List (ClusterSpec × Balancer.Task)) {forgotten : List String} {t : Traffic σ}
    (h : (crowd fleet s wanted).Passes engine forgotten t) (cluster : String) :
    (∀ ids : List Nat, ids.Nodup → (∀ i ∈ ids, t.Engaged cluster i) →
      ids.length ≤ forgotten.count cluster + 1) ∧
    (∀ i c, t.caller? i = some c → t.InFlight i →
      t.Engaged c.spec.name i ∨ c.phase.place = .hall ∨ c.phase.place = .lockLine) ∧
    (∀ i c forgotten' u d, t.caller? i = some c → c.spec.name = cluster →
      c.phase.place = .lock → t.Passes engine forgotten' u → u.caller? i = some d →
      d.phase.place = .lock → cluster ∉ forgotten ++ forgotten' →
      ∃ more, u.made = t.made ++ more ∧ ∀ entry ∈ more, ∀ e, u.caller? entry.1 = some e →
        e.spec.name = cluster → entry.1 = i) := by
  have hcrowd := known_crowd fleet s wanted
  have hknown := h.known hcrowd
  refine ⟨fun ids hnodup hids => hknown.engaged_le hnodup hids, fun i c hc hflight => ?_, ?_⟩
  · obtain ⟨hrequests, hresult⟩ := hflight
    obtain ⟨entry, hentry, hi⟩ := List.countP_pos_iff.1 hrequests
    obtain rfl : entry.1 = i := by simpa using hi
    rw [result?_of_caller? hc] at hresult
    have hplace := Phase.place_of_toGo (hknown.started entry hentry c hc) hresult
    rcases hplace with hplace | hplace | hplace | hplace
    · exact .inl ⟨c, hc, rfl, .inl hplace⟩
    · exact .inr (.inl hplace)
    · exact .inr (.inr hplace)
    · exact .inl ⟨c, hc, rfl, .inr hplace⟩
  · rintro i c forgotten' u d hc rfl hlock hpasses hd hlock' hcluster
    exact h.made_of_lock hcrowd hpasses hc hlock hd hlock' hcluster

/-- Lets callers go on in one order, forgets a cluster, and lets them go on in another order. -/
def driveForgetting (engine : Engine σ) (cluster : String) (before after : List Nat)
    (t : Traffic σ) : Option (Traffic σ) :=
  (t.drive engine before).bind fun u =>
    if u.tracks cluster then (u.forget cluster).drive engine after else none

lemma passes_driveForgetting {start : Traffic σ} {before after : List Nat}
    (h : start.driveForgetting engine cluster before after = some u) :
    start.Passes engine [cluster] u := by
  obtain ⟨t, ht, hu⟩ := Option.bind_eq_some_iff.1 h
  split at hu
  · next htracks =>
    have hforget := (Passes.start.drive ht).forget cluster
    rw [htracks] at hforget
    exact hforget.drive hu
  · cases hu

/-- An inventory with the container of a balancer. -/
def furnished : Inventory :=
  ({} : Inventory).add (.node "demo-lb" "demo" .externalLoadBalancer) "172.18.0.9"

/-- After its cluster was forgotten, a creation that gets no answer is joined by another, and another
update is made between the write and the signal of an update. -/
theorem forgotten_slot_admits_another :
    (∃ t, (pair (({} : Inventory).stall .create) .create).Passes Inventory.engine ["demo"] t ∧
      (t.Engaged "demo" 0 ∧ t.InFlight 0) ∧ (t.Engaged "demo" 1 ∧ t.InFlight 1) ∧
      t.made.map (fun e => (e.1, e.2.call.operation)) =
        [(0, .list), (0, .create), (1, .list), (1, .create)]) ∧
    ∃ t, (pair furnished .update).Passes Inventory.engine ["demo"] t ∧
      t.made.map (fun e => (e.1, e.2.call.operation)) =
        [(0, .list), (0, .list), (0, .writeFile),
          (1, .list), (1, .list), (1, .writeFile), (1, .signal), (0, .signal)] := by
  constructor
  · have hrun : ((pair (({} : Inventory).stall .create) .create).driveForgetting Inventory.engine
        "demo" (List.replicate 12 0) (List.replicate 12 1)).map (fun t =>
          (decide ((t.Engaged "demo" 0 ∧ t.InFlight 0) ∧ t.Engaged "demo" 1 ∧ t.InFlight 1),
            t.made.map fun e => (e.1, e.2.call.operation))) =
        some (true, [(0, .list), (0, .create), (1, .list), (1, .create)]) := by
      decide +kernel
    obtain ⟨t, ht, hview⟩ := Option.map_eq_some_iff.1 hrun
    obtain ⟨hflight, hmade⟩ := Prod.mk.inj hview
    obtain ⟨hfirst, hsecond⟩ := of_decide_eq_true hflight
    exact ⟨t, passes_driveForgetting ht, hfirst, hsecond, hmade⟩
  · have hrun : ((pair furnished .update).driveForgetting Inventory.engine "demo"
        (List.replicate 15 0) (List.replicate 18 1 ++ List.replicate 3 0)).map (fun t =>
          t.made.map fun e => (e.1, e.2.call.operation)) =
        some [(0, .list), (0, .list), (0, .writeFile),
          (1, .list), (1, .list), (1, .writeFile), (1, .signal), (0, .signal)] := by
      decide +kernel
    obtain ⟨t, ht, hmade⟩ := Option.map_eq_some_iff.1 hrun
    exact ⟨t, passes_driveForgetting ht, hmade⟩

/-- Beside two updates of a cluster that was forgotten once there is no third. -/
theorem no_third_beside_forgotten :
    ∃ t, (pair furnished .update).Passes Inventory.engine ["demo"] t ∧
      ∀ i, t.Engaged "demo" i ↔ i = 0 ∨ i = 1 := by
  have hrun : ((pair furnished .update).driveForgetting Inventory.engine "demo"
      (List.replicate 15 0) (List.replicate 15 1)).map (fun t =>
        decide (t.Engaged "demo" 0 ∧ t.Engaged "demo" 1)) = some true := by
    decide +kernel
  obtain ⟨t, ht, hengaged⟩ := Option.map_eq_some_iff.1 hrun
  obtain ⟨hfirst, hsecond⟩ := of_decide_eq_true hengaged
  have hpasses := passes_driveForgetting ht
  refine ⟨t, hpasses, fun i => ⟨fun hi => ?_, fun hi => ?_⟩⟩
  · obtain ⟨hcount, -⟩ := engaged_le_forgotten Inventory.engine {} furnished _ hpasses "demo"
    by_contra hother
    have hids : ∀ j ∈ [0, 1, i], t.Engaged "demo" j := by
      simp [hfirst, hsecond, hi]
    have hnodup : [0, 1, i].Nodup := by
      simp
      omega
    have hle := hcount [0, 1, i] hnodup hids
    exact absurd hle (by simp)
  · rcases hi with rfl | rfl
    · exact hfirst
    · exact hsecond

end Traffic

end ApiBalancer
