import ApiBalancer.Proofs.CallersInTurn

/-!
# Crowds

Callers for any clusters beside each other, while clusters may be forgotten at any time. A slot that
is no longer in the table goes on serving those who have got it, so order is kept slot by slot:
`Traffic.Regular` says that the lines of every slot ever made know the callers at it, and holds of
whatever a crowd can come to.
-/

namespace ApiBalancer

/-- Where a caller in a phase stands with regard to the lines of slot `n`. -/
def Phase.placeAt (phase : Phase) (n : Nat) : Place :=
  if phase.slot? = some n then phase.place else .outside

lemma Phase.placeAt_self {phase : Phase} {n : Nat} (h : phase.slot? = some n) :
    phase.placeAt n = phase.place := if_pos h

lemma Phase.of_placeAt {phase : Phase} {n : Nat} {pl : Place} (h : phase.placeAt n = pl)
    (hpl : pl ≠ .outside) : phase.slot? = some n ∧ phase.place = pl := by
  unfold placeAt at h
  split at h
  · next hn => exact ⟨hn, h⟩
  · exact (hpl h.symm).elim

/-- Whether a phase comes at or after another, for a caller who has its slot from before or gets it
from the table. -/
structure Phase.LeadsTo (slot : Option Nat) (old new : Phase) : Prop where
  toGo : new.toGo ≤ old.toGo
  slot : ∀ n, new.slot? = some n → old.slot? = some n ∨ slot = some n

namespace Phase

variable {slot : Option Nat} {old mid new : Phase} {n : Nat}

lemma leadsTo_self (slot : Option Nat) (phase : Phase) : phase.LeadsTo slot phase :=
  ⟨Nat.le_refl _, fun _ hn => .inl hn⟩

lemma leadsTo_returned (slot : Option Nat) (old : Phase)
    (result : Except BalancerError Balancer.Answer) : old.LeadsTo slot (.returned result) :=
  ⟨Nat.zero_le _, nofun⟩

lemma LeadsTo.trans (h : old.LeadsTo slot mid) (h' : mid.LeadsTo slot new) :
    old.LeadsTo slot new := by
  refine ⟨Nat.le_trans h'.toGo h.toGo, fun n hn => ?_⟩
  rcases h'.slot n hn with hn | hn
  · exact h.slot n hn
  · exact .inr hn

lemma LeadsTo.weaken (h : old.LeadsTo none new) (slot : Option Nat) : old.LeadsTo slot new := by
  refine ⟨h.toGo, fun n hn => ?_⟩
  rcases h.slot n hn with hn | hn
  · exact .inl hn
  · cases hn

lemma leadsTo_of_lookUpLine (hn : old.slot? = some n) (hplace : old.place = .lookUpLine)
    (hnew : new.slot? = some n) (htoGo : new.toGo ≤ 9) : old.LeadsTo none new := by
  refine ⟨?_, fun k hk => .inl (hn.trans (hnew.symm.trans hk))⟩
  cases old with
  | waitsForLookUp => exact htoGo
  | _ => cases hplace

lemma leadsTo_of_lockLine (hn : old.slot? = some n) (hplace : old.place = .lockLine)
    (hnew : new.slot? = some n) (htoGo : new.toGo ≤ 4) : old.LeadsTo none new := by
  refine ⟨?_, fun k hk => .inl (hn.trans (hnew.symm.trans hk))⟩
  cases old with
  | waitsForLock => exact htoGo
  | _ => cases hplace

lemma toGo_of_lock {phase : Phase} (h : phase.place = .lock) : phase.toGo ≤ 3 := by
  cases phase with
  | startsWork | works | stuckInWork => simp [toGo]
  | _ => cases h

end Phase

section moved

variable {ids : List Nat} {pl : Place} {f : Nat → Option Place}

lemma moved_eq_self (h : ∀ i ∈ ids, ∀ q, f i = some q → q = pl) : moved ids pl f = f := by
  funext i
  by_cases hi : i ∈ ids
  · rw [moved_of_mem hi]
    cases hq : f i with
    | none => rfl
    | some q => rw [h i hi q hq]; rfl
  · exact moved_of_not_mem hi

end moved

namespace Traffic

variable {σ : Type} {t t' u : Traffic σ} {engine : Engine σ} {c : Caller} {slot : Slot}
  {i n m : Nat} {ids : List Nat}

/-- Where each caller stands with regard to the lines of slot `n`. -/
def placeAt (t : Traffic σ) (n i : Nat) : Option Place := (t.caller? i).map (·.phase.placeAt n)

/-- Whether the lines of slot `n`, if there is one, know the callers at it. -/
def OrderlyAt (t : Traffic σ) (n : Nat) : Prop :=
  ∀ slot, t.slots[n]? = some slot → slot.Orderly (t.placeAt n)

lemma placeAt_eq_some {q : Place} (h : t.placeAt n i = some q) :
    ∃ c, t.caller? i = some c ∧ c.phase.placeAt n = q := by
  exact Option.map_eq_some_iff.1 h

lemma placeAt_of_caller? (h : t.caller? i = some c) (n : Nat) :
    t.placeAt n i = some (c.phase.placeAt n) := by
  unfold placeAt
  rw [h]
  rfl

lemma placeAt_moveTo (t : Traffic σ) (ids : List Nat) (phase : Phase) (n : Nat) :
    (t.moveTo ids phase).placeAt n = moved ids (phase.placeAt n) (t.placeAt n) := by
  funext i
  unfold placeAt moved
  rw [caller?_moveTo]
  by_cases hi : i ∈ ids
  · simp [hi, Option.map_map, Function.comp_def]
  · simp [hi]

/-- A caller who stands in a line of one slot does not stand in a line of another. -/
lemma placeAt_elsewhere {q q' : Place} (hq : t.placeAt n i = some q) (hne : q ≠ .outside)
    (hm : m ≠ n) (hq' : t.placeAt m i = some q') : q' = .outside := by
  obtain ⟨c, hc, hplace⟩ := placeAt_eq_some hq
  obtain ⟨c', hc', hplace'⟩ := placeAt_eq_some hq'
  cases hc.symm.trans hc'
  have hslot : c.phase.slot? = some n := by
    by_contra hother
    rw [Phase.placeAt, if_neg hother] at hplace
    exact hne hplace.symm
  have hother : ¬c.phase.slot? = some m := by
    rw [hslot]
    exact fun heq => hm (Option.some.inj heq).symm
  rw [Phase.placeAt, if_neg hother] at hplace'
  exact hplace'.symm

lemma placeAt_of_slot? (hm : m ≠ n) {phase : Phase} (hphase : ∀ k, phase.slot? = some k → k = n) :
    phase.placeAt m = .outside := by
  have hother : ¬phase.slot? = some m := fun heq => hm (hphase m heq)
  rw [Phase.placeAt, if_neg hother]

/-- Moves at slot `n` are not seen from another slot. -/
lemma placeAt_moveTo_elsewhere (hm : m ≠ n) {phase : Phase}
    (hphase : ∀ k, phase.slot? = some k → k = n)
    (hids : ∀ j ∈ ids, ∀ q, t.placeAt m j = some q → q = .outside) :
    (t.moveTo ids phase).placeAt m = t.placeAt m := by
  rw [placeAt_moveTo, placeAt_of_slot? hm hphase]
  exact moved_eq_self hids

lemma getElem?_changeSlot_of_ne (hm : m ≠ n) (t : Traffic σ) (f : Slot → Slot) :
    (t.changeSlot n f).slots[m]? = t.slots[m]? := by
  exact List.getElem?_modify_ne f t.slots (Ne.symm hm)

/-- What happens at slot `n` keeps every slot in order if it keeps slot `n` in order and moves nobody
who stands in a line of another slot. -/
lemma OrderlyAt.of_changeSlot (h : t.OrderlyAt m) {f : Slot → Slot} (hown : t.OrderlyAt n)
    (hslot : t.slots[n]? = some slot) (hslots : u.slots = (t.changeSlot n f).slots)
    (hhere : slot.Orderly (t.placeAt n) → (f slot).Orderly (u.placeAt n))
    (helse : m ≠ n → u.placeAt m = t.placeAt m) : u.OrderlyAt m := by
  intro slot' hslot'
  rw [hslots] at hslot'
  by_cases hm : m = n
  · subst hm
    cases (getElem?_changeSlot hslot f).symm.trans hslot'
    exact hhere (hown slot hslot)
  · rw [getElem?_changeSlot_of_ne hm] at hslot'
    rw [helse hm]
    exact h slot' hslot'

lemma slots_changeSlot_id (t : Traffic σ) (n : Nat) : (t.changeSlot n id).slots = t.slots := by
  exact List.modify_id n t.slots

/-- Where a caller at slot `n` stands with regard to another slot. -/
lemma placeAt_self_elsewhere (hc : t.caller? c.id = some c) (hn : c.phase.slot? = some n)
    (hm : m ≠ n) : ∀ j ∈ [c.id], ∀ q, t.placeAt m j = some q → q = .outside := by
  intro j hj q hq
  rw [List.mem_singleton.1 hj] at hq
  cases (placeAt_of_caller? hc m).symm.trans hq
  refine placeAt_of_slot? hm fun k hk => ?_
  exact Option.some.inj (hk.symm.trans hn)

/-- A caller who goes on alone at its slot, where something may change. -/
lemma OrderlyAt.goesAlone (h : t.OrderlyAt m) (hown : t.OrderlyAt n)
    (hc : t.caller? c.id = some c) (hn : c.phase.slot? = some n)
    (hslot : t.slots[n]? = some slot) {f : Slot → Slot} {phase : Phase}
    (hphase : phase.slot? = some n) (hcallers : u.caller? = t.caller?)
    (hslots : u.slots = (t.changeSlot n f).slots)
    (hhere : slot.Orderly (t.placeAt n) →
      (f slot).Orderly (moved [c.id] phase.place (t.placeAt n))) :
    (u.moveTo [c.id] phase).OrderlyAt m := by
  have hplaces : ∀ k, u.placeAt k = t.placeAt k := by
    intro k
    unfold placeAt
    rw [hcallers]
  refine h.of_changeSlot hown hslot hslots ?_ ?_
  · rw [placeAt_moveTo, hplaces, Phase.placeAt_self hphase]
    exact hhere
  · intro hm
    rw [← hplaces m]
    refine placeAt_moveTo_elsewhere hm (fun k hk => Option.some.inj (hk.symm.trans hphase)) ?_
    rw [hplaces m]
    exact placeAt_self_elsewhere hc hn hm

/-- A caller who goes on at its slot, in its place. -/
lemma OrderlyAt.stays (h : t.OrderlyAt m) (hown : t.OrderlyAt n)
    (hc : t.caller? c.id = some c) (hn : c.phase.slot? = some n)
    (hslot : t.slots[n]? = some slot) {f : Slot → Slot} {phase : Phase}
    (hphase : phase.slot? = some n) (hplace : phase.place = c.phase.place)
    (hcallers : u.caller? = t.caller?) (hslots : u.slots = (t.changeSlot n f).slots)
    (hhere : slot.Orderly (t.placeAt n) → (f slot).Orderly (t.placeAt n)) :
    (u.moveTo [c.id] phase).OrderlyAt m := by
  refine h.goesAlone hown hc hn hslot hphase hcallers hslots fun horderly => ?_
  have hthere : t.placeAt n c.id = some phase.place := by
    rw [placeAt_of_caller? hc, Phase.placeAt_self hn, hplace]
  rw [moved_self hthere]
  exact hhere horderly

/-- A caller leaves its slot, where those who are next may start. -/
lemma OrderlyAt.handsOver (h : t.OrderlyAt m) (hown : t.OrderlyAt n)
    (hc : t.caller? c.id = some c) (hn : c.phase.slot? = some n)
    (hslot : t.slots[n]? = some slot) {f : Slot → Slot} {next : List Nat} {start : Phase}
    (hstart : start.slot? = some n) (result : Except BalancerError Balancer.Answer)
    (hnext : ∀ j ∈ next, ∀ q, t.placeAt n j = some q → q ≠ .outside)
    (hhere : slot.Orderly (t.placeAt n) →
      (f slot).Orderly (moved [c.id] .outside (moved next start.place (t.placeAt n)))) :
    (((t.changeSlot n f).moveTo next start).moveTo [c.id] (.returned result)).OrderlyAt m := by
  have hplaces : ∀ k, (t.changeSlot n f).placeAt k = t.placeAt k := fun _ => rfl
  refine h.of_changeSlot hown hslot rfl ?_ ?_
  · rw [placeAt_moveTo, placeAt_moveTo, hplaces]
    have hreturned : (Phase.returned result).placeAt n = .outside := rfl
    rw [hreturned, Phase.placeAt_self hstart]
    exact hhere
  · intro hm
    have hfirst : ((t.changeSlot n f).moveTo next start).placeAt m = t.placeAt m := by
      rw [← hplaces m]
      refine placeAt_moveTo_elsewhere hm (fun k hk => Option.some.inj (hk.symm.trans hstart)) ?_
      intro j hj q hq
      obtain ⟨d, hd, -⟩ := placeAt_eq_some hq
      have hthere := placeAt_of_caller? (t := t) hd n
      exact placeAt_elsewhere hthere (hnext j hj _ hthere) hm hq
    rw [← hfirst]
    refine placeAt_moveTo_elsewhere hm nofun ?_
    rw [hfirst]
    exact placeAt_self_elsewhere hc hn hm

lemma OrderlyAt.lookedUp (h : t.OrderlyAt m) (hown : t.OrderlyAt n)
    (hc : t.caller? c.id = some c) (hn : c.phase.slot? = some n)
    (hslot : t.slots[n]? = some slot) (hplace : c.phase.place = .lookUp) (b : Balancer) :
    (t.lookedUp c.id n slot b).1.OrderlyAt m := by
  have hthere : t.placeAt n c.id = some .lookUp := by
    rw [placeAt_of_caller? hc, Phase.placeAt_self hn, hplace]
  have horderly := hown slot hslot
  refine h.of_changeSlot (f := fun s => { s with balancer := some b, lookUp := {} })
    hown hslot rfl ?_ ?_
  · intro _
    unfold Traffic.lookedUp
    rw [placeAt_moveTo, Phase.placeAt_self rfl]
    exact horderly.lookedUp hthere b
  · intro hm
    refine placeAt_moveTo_elsewhere hm (fun k hk => (Option.some.inj hk).symm) ?_
    intro j hj q hq
    rcases List.mem_cons.1 hj with rfl | hj
    · exact placeAt_self_elsewhere hc hn hm _ List.mem_cons_self q hq
    · obtain ⟨d, hd, -⟩ := placeAt_eq_some hq
      have hwaits := placeAt_of_caller? (t := t) hd n
      have hline := (horderly.lookUp.waiting_iff j _ hwaits).2 hj
      refine placeAt_elsewhere hwaits ?_ hm hq
      rw [hline]
      exact nofun

lemma OrderlyAt.lookUpFailed (h : t.OrderlyAt m) (hown : t.OrderlyAt n)
    (hc : t.caller? c.id = some c) (hn : c.phase.slot? = some n)
    (hslot : t.slots[n]? = some slot) (hplace : c.phase.place = .lookUp) (e : BalancerError) :
    (t.lookUpFailed c.id n slot e).1.OrderlyAt m := by
  have hthere : t.placeAt n c.id = some .lookUp := by
    rw [placeAt_of_caller? hc, Phase.placeAt_self hn, hplace]
  refine h.handsOver hown hc hn hslot rfl _ ?_ fun horderly => horderly.lookUpFailed hthere
  intro j hj q hq
  rw [((hown slot hslot).lookUp.waiting_iff j q hq).2 (List.mem_of_mem_take hj)]
  exact nofun

lemma OrderlyAt.workEnded (h : t.OrderlyAt m) (hown : t.OrderlyAt n)
    (hc : t.caller? c.id = some c) (hn : c.phase.slot? = some n)
    (hslot : t.slots[n]? = some slot) (hplace : c.phase.place = .lock)
    (result : Except BalancerError (Balancer × Balancer.Answer)) :
    (t.workEnded c.id n slot result).1.OrderlyAt m := by
  have hthere : t.placeAt n c.id = some .lock := by
    rw [placeAt_of_caller? hc, Phase.placeAt_self hn, hplace]
  have horderly := hown slot hslot
  have hsome := horderly.balancer_isSome hthere (.inr (.inr rfl))
  have hnext : ∀ j ∈ slot.lock.waiting.take 1, ∀ q, t.placeAt n j = some q → q ≠ .outside := by
    intro j hj q hq
    rw [(horderly.lock.waiting_iff j q hq).2 (List.mem_of_mem_take hj)]
    exact nofun
  cases result with
  | ok value =>
    exact h.handsOver hown hc hn hslot rfl _ hnext fun horderly => horderly.workEnded hthere rfl
  | error e =>
    exact h.handsOver hown hc hn hslot rfl _ hnext fun horderly => horderly.workEnded hthere hsome

/-- A caller who stands outside all lines moves on outside them. -/
lemma OrderlyAt.outside (h : t.OrderlyAt m) (hc : t.caller? c.id = some c)
    (hplace : c.phase.place = .outside) {phase : Phase} (hphase : phase.place = .outside) :
    (t.moveTo [c.id] phase).OrderlyAt m := by
  have hout : ∀ ph : Phase, ph.place = .outside → ph.placeAt m = .outside := by
    intro ph hph
    unfold Phase.placeAt
    split
    · exact hph
    · rfl
  have hsame : (t.moveTo [c.id] phase).placeAt m = t.placeAt m := by
    rw [placeAt_moveTo, hout phase hphase]
    exact moved_self ((placeAt_of_caller? hc m).trans (congrArg some (hout _ hplace)))
  intro slot hslot
  rw [hsame]
  exact h slot hslot

/-- A slot is made for a cluster. -/
lemma OrderlyAt.opens (h : t.OrderlyAt m)
    (hnew : ∀ i d, t.caller? i = some d → d.phase.slot? ≠ some t.slots.length)
    (cluster : String) :
    OrderlyAt { t with
      table := t.table.insert cluster t.slots.length
      slots := t.slots ++ [({} : Slot)] } m := by
  intro slot hslot
  change (t.slots ++ [({} : Slot)])[m]? = some slot at hslot
  by_cases hm : m < t.slots.length
  · rw [List.getElem?_append_left hm] at hslot
    exact h slot hslot
  · -- nobody can be at the slot that has just been made
    have hlast : m = t.slots.length := by
      have hlt := (List.getElem?_eq_some_iff.1 hslot).1
      rw [List.length_append, List.length_singleton] at hlt
      omega
    rw [hlast, List.getElem?_concat_length] at hslot
    cases hslot
    refine Slot.orderly_new (fun i q hq => ?_) none
    obtain ⟨d, hd, rfl⟩ := placeAt_eq_some (t := t) hq
    rw [hlast, Phase.placeAt, if_neg (hnew i d hd)]

/-- Whatever a caller does, it keeps every slot in order. -/
theorem OrderlyAt.goes (h : t.OrderlyAt m) (hown : ∀ n, c.phase.slot? = some n → t.OrderlyAt n)
    (hnew : ∀ i d, t.caller? i = some d → d.phase.slot? ≠ some t.slots.length)
    (hc : t.caller? c.id = some c) (hgoes : t.Goes engine c t') : t'.OrderlyAt m := by
  have hthere : ∀ {n place}, c.phase.slot? = some n → c.phase.place = place →
      t.placeAt n c.id = some place := by
    intro n place hn hplace
    rw [placeAt_of_caller? hc, Phase.placeAt_self hn, hplace]
  cases hgoes with
  | misses hphase hslot => exact h.outside hc (by rw [hphase]; rfl) rfl
  | finds n hphase hslot =>
    refine h.outside hc ?_ rfl
    rcases hphase with hphase | hphase <;> rw [hphase] <;> rfl
  | opens hphase hslot => exact (h.opens hnew c.spec.name).outside hc (by rw [hphase]; rfl) rfl
  | passes n slot hphase hslot hbalancer =>
    have hn : c.phase.slot? = some n := by rw [hphase]; rfl
    refine h.goesAlone (f := id) (hown n hn) hc hn hslot rfl rfl ?_ ?_
    · exact (slots_changeSlot_id t n).symm
    · exact fun horderly => horderly.pass (hthere hn (by rw [hphase]; rfl)) hbalancer
  | asks n slot hphase hslot hbalancer =>
    have hn : c.phase.slot? = some n := by rw [hphase]; rfl
    refine h.goesAlone (hown n hn) hc hn hslot ?_ rfl rfl fun horderly => ?_
    · split <;> rfl
    · rw [apply_ite Phase.place]
      exact horderly.joinLookUp (hthere hn (by rw [hphase]; rfl)) hbalancer
  | queues n slot hphase hslot =>
    have hn : c.phase.slot? = some n := by rw [hphase]; rfl
    refine h.goesAlone (hown n hn) hc hn hslot ?_ rfl rfl fun horderly => ?_
    · split <;> rfl
    · rw [apply_ite Phase.place]
      exact horderly.joinLock (hthere hn (by rw [hphase]; rfl))
  | beginsLookUp n slot hphase hslot | looksOn n slot _ _ _ _ hphase hslot
  | sticksInLookUp n slot _ _ _ _ hphase hslot | worksOn n slot _ _ _ _ hphase hslot
  | sticksInWork n slot _ _ _ _ hphase hslot =>
    have hn : c.phase.slot? = some n := by rw [hphase]; rfl
    refine h.stays (f := id) (hown n hn) hc hn hslot rfl (by rw [hphase]; rfl) rfl ?_ id
    exact (slots_changeSlot_id t n).symm
  | beginsWork n slot b hphase hslot hbalancer =>
    have hn : c.phase.slot? = some n := by rw [hphase]; rfl
    have hsome : slot.balancer.isSome := by rw [hbalancer]; rfl
    refine h.stays (hown n hn) hc hn hslot rfl (by rw [hphase]; rfl) rfl rfl fun horderly => ?_
    exact horderly.withBalancer hsome _
  | finishesLookUp n slot work pace p b hphase hslot hadvance =>
    have hn : c.phase.slot? = some n := by rw [hphase]; rfl
    exact OrderlyAt.lookedUp (t := t.progressed c.id p) h (hown n hn) hc hn hslot
      (by rw [hphase]; rfl) b
  | failsLookUp n slot work pace p e hphase hslot hadvance =>
    have hn : c.phase.slot? = some n := by rw [hphase]; rfl
    exact OrderlyAt.lookUpFailed (t := t.progressed c.id p) h (hown n hn) hc hn hslot
      (by rw [hphase]; rfl) e
  | leavesLookUp n slot e hphase hslot hcancelled =>
    have hn : c.phase.slot? = some n := by rw [hphase]; rfl
    exact h.lookUpFailed (hown n hn) hc hn hslot (by rw [hphase]; rfl) e
  | finishesWork n slot work pace p result hphase hslot hadvance =>
    have hn : c.phase.slot? = some n := by rw [hphase]; rfl
    exact OrderlyAt.workEnded (t := t.progressed c.id p) h (hown n hn) hc hn hslot
      (by rw [hphase]; rfl) result
  | leavesWork n slot e hphase hslot hcancelled =>
    have hn : c.phase.slot? = some n := by rw [hphase]; rfl
    exact h.workEnded (hown n hn) hc hn hslot (by rw [hphase]; rfl) _

/-! ### What a step does to callers and table -/

/-- Callers go onward if each keeps what it wants, goes only to later phases, and has its slot from
before or from the table. -/
def Onward (t u : Traffic σ) : Prop :=
  ∀ i d, u.caller? i = some d → ∃ d₀, t.caller? i = some d₀ ∧ d = { d₀ with phase := d.phase } ∧
    d₀.phase.LeadsTo (u.table.get? d.spec.name) d.phase

lemma onward_of_caller? (h : u.caller? = t.caller?) : t.Onward u := by
  intro i d hd
  rw [h] at hd
  exact ⟨d, hd, rfl, Phase.leadsTo_self _ _⟩

lemma Onward.moveTo (h : t.Onward u) {phase : Phase}
    (hids : ∀ j ∈ ids, ∀ d, u.caller? j = some d →
      d.phase.LeadsTo (u.table.get? d.spec.name) phase) : t.Onward (u.moveTo ids phase) := by
  intro i d hd
  rw [caller?_moveTo] at hd
  obtain ⟨d₁, hd₁, rfl⟩ := Option.map_eq_some_iff.1 hd
  obtain ⟨d₀, hd₀, hsame, hleads⟩ := h i d₁ hd₁
  by_cases hi : i ∈ ids
  · rw [if_pos hi]
    refine ⟨d₀, hd₀, ?_, hleads.trans (hids i hi d₁ hd₁)⟩
    rw [hsame]
  · rw [if_neg hi]
    exact ⟨d₀, hd₀, hsame, hleads⟩

lemma onward_moveTo_self (hcallers : u.caller? = t.caller?) (hc : t.caller? c.id = some c)
    {phase : Phase} (h : c.phase.LeadsTo (u.table.get? c.spec.name) phase) :
    t.Onward (u.moveTo [c.id] phase) := by
  refine (onward_of_caller? hcallers).moveTo fun j hj d hd => ?_
  rw [List.mem_singleton.1 hj, hcallers] at hd
  cases hc.symm.trans hd
  exact h

/-- Those who stand in a line wait for the slot of the line. -/
lemma of_waiting {line : Line} {waits holds : Place} (h : line.Serves (t.placeAt n) waits holds)
    (hwaits : waits ≠ .outside) (hi : i ∈ line.waiting) {d : Caller} (hd : t.caller? i = some d) :
    d.phase.slot? = some n ∧ d.phase.place = waits := by
  have hplace := (h.waiting_iff i _ (placeAt_of_caller? hd n)).2 hi
  exact Phase.of_placeAt hplace hwaits

/-- A caller leaves its slot, where those who are next may start. -/
lemma onward_handOver (hcallers : u.caller? = t.caller?) {line : Line} {waits holds : Place}
    (h : line.Serves (t.placeAt n) waits holds) (hwaits : waits ≠ .outside) {start : Phase}
    (hstart : ∀ phase : Phase, phase.slot? = some n → phase.place = waits →
      phase.LeadsTo none start)
    (i : Nat) (result : Except BalancerError Balancer.Answer) :
    t.Onward ((u.moveTo (line.waiting.take 1) start).moveTo [i] (.returned result)) := by
  refine ((onward_of_caller? hcallers).moveTo fun j hj d hd => ?_).moveTo fun j hj d hd => ?_
  · rw [hcallers] at hd
    obtain ⟨hn, hplace⟩ := of_waiting h hwaits (List.mem_of_mem_take hj) hd
    exact (hstart _ hn hplace).weaken _
  · exact Phase.leadsTo_returned _ _ _

/-- Whatever a caller does, all go onward. -/
theorem onward_of_goes (hown : ∀ n, c.phase.slot? = some n → t.OrderlyAt n)
    (hc : t.caller? c.id = some c) (hgoes : t.Goes engine c t') : t.Onward t' := by
  cases hgoes with
  | misses hphase hslot =>
    refine onward_moveTo_self rfl hc ⟨?_, nofun⟩
    rw [hphase]
    simp [Phase.toGo]
  | finds n hphase hslot =>
    refine onward_moveTo_self rfl hc ⟨?_, fun k hk => .inr ?_⟩
    · rcases hphase with hphase | hphase <;> rw [hphase] <;> simp [Phase.toGo]
    · cases hk
      exact hslot
  | opens hphase hslot =>
    refine onward_moveTo_self (u := { t with
      table := t.table.insert c.spec.name t.slots.length
      slots := t.slots ++ [({} : Slot)] }) rfl hc ⟨?_, fun k hk => .inr ?_⟩
    · rw [hphase]
      simp [Phase.toGo]
    · cases hk
      exact NameMap.get?_insert_self _ _ _
  | passes n _ hphase | beginsLookUp n _ hphase | looksOn n _ _ _ _ _ hphase
  | sticksInLookUp n _ _ _ _ _ hphase | beginsWork n _ _ hphase | worksOn n _ _ _ _ _ hphase
  | sticksInWork n _ _ _ _ _ hphase =>
    refine onward_moveTo_self rfl hc ⟨?_, fun k hk => .inl ?_⟩ <;> rw [hphase]
    · simp [Phase.toGo]
    · exact hk
  | asks n _ hphase | queues n _ hphase =>
    refine onward_moveTo_self rfl hc ⟨?_, fun k hk => .inl ?_⟩ <;> rw [hphase]
    · split <;> simp [Phase.toGo]
    · split at hk <;> exact hk
  | finishesLookUp n slot work pace p b hphase hslot hadvance =>
    have hn : c.phase.slot? = some n := by rw [hphase]; rfl
    refine Onward.moveTo (onward_of_caller? rfl) fun j hj d hd => ?_
    rcases List.mem_cons.1 hj with rfl | hj
    · cases hc.symm.trans hd
      refine ⟨?_, fun k hk => .inl ?_⟩ <;> rw [hphase]
      · simp [Phase.toGo]
      · exact hk
    · obtain ⟨hn, hplace⟩ := of_waiting (hown n hn slot hslot).lookUp nofun hj hd
      exact (Phase.leadsTo_of_lookUpLine hn hplace rfl (by simp [Phase.toGo])).weaken _
  | failsLookUp n slot work pace p e hphase hslot hadvance =>
    have hn : c.phase.slot? = some n := by rw [hphase]; rfl
    refine onward_handOver rfl (hown n hn slot hslot).lookUp nofun (fun phase hn hplace => ?_) _ _
    exact Phase.leadsTo_of_lookUpLine hn hplace rfl (by simp [Phase.toGo])
  | leavesLookUp n slot e hphase hslot hcancelled =>
    have hn : c.phase.slot? = some n := by rw [hphase]; rfl
    refine onward_handOver rfl (hown n hn slot hslot).lookUp nofun (fun phase hn hplace => ?_) _ _
    exact Phase.leadsTo_of_lookUpLine hn hplace rfl (by simp [Phase.toGo])
  | finishesWork n slot work pace p result hphase hslot hadvance =>
    have hn : c.phase.slot? = some n := by rw [hphase]; rfl
    refine onward_handOver rfl (hown n hn slot hslot).lock nofun (fun phase hn hplace => ?_) _ _
    exact Phase.leadsTo_of_lockLine hn hplace rfl (by simp [Phase.toGo])
  | leavesWork n slot e hphase hslot hcancelled =>
    have hn : c.phase.slot? = some n := by rw [hphase]; rfl
    refine onward_handOver rfl (hown n hn slot hslot).lock nofun (fun phase hn hplace => ?_) _ _
    exact Phase.leadsTo_of_lockLine hn hplace rfl (by simp [Phase.toGo])

/-- A step leaves the table as it is, or adds a slot for the cluster of the one who goes on. -/
lemma table_of_goes (hgoes : t.Goes engine c t') :
    (t'.table = t.table ∧ t'.slots.length = t.slots.length) ∨
    (t.table.get? c.spec.name = none ∧
      t'.table = t.table.insert c.spec.name t.slots.length ∧
      t'.slots.length = t.slots.length + 1) := by
  have hchanged : ∀ n (f : Slot → Slot), (t.slots.modify n f).length = t.slots.length :=
    fun n f => List.length_modify f t.slots n
  cases hgoes with
  | opens hphase hslot =>
    refine .inr ⟨hslot, rfl, ?_⟩
    exact List.length_append
  | misses | finds | passes | beginsLookUp | looksOn | sticksInLookUp | worksOn | sticksInWork =>
    exact .inl ⟨rfl, rfl⟩
  | asks | queues | beginsWork | finishesLookUp | failsLookUp | leavesLookUp | finishesWork
  | leavesWork => exact .inl ⟨rfl, hchanged _ _⟩

/-- Requests are made by one who is busy. -/
lemma made_of_goes (hgoes : t.Goes engine c t') :
    ∃ block : List Request, t'.made = t.made ++ block.map (c.id, ·) ∧
      (block ≠ [] → c.phase.busy = true) := by
  cases hgoes with
  | misses | finds | opens | passes | asks | beginsLookUp | leavesLookUp | queues | beginsWork
  | leavesWork => exact ⟨[], (List.append_nil _).symm, fun hne => (hne rfl).elim⟩
  | looksOn n _ _ _ _ p hphase | finishesLookUp n _ _ _ p _ hphase
  | failsLookUp n _ _ _ p _ hphase | sticksInLookUp n _ _ _ p _ hphase
  | worksOn n _ _ _ _ p hphase | finishesWork n _ _ _ p _ hphase
  | sticksInWork n _ _ _ p _ hphase =>
    refine ⟨p.made, rfl, fun _ => ?_⟩
    rw [hphase]
    rfl

/-- Whether every caller and every entry of the table has a slot that was made, and the lines of all
slots know their callers. -/
structure Regular (t : Traffic σ) : Prop where
  held : ∀ i d n, t.caller? i = some d → d.phase.slot? = some n → n < t.slots.length
  listed : ∀ cluster n, t.table.get? cluster = some n → n < t.slots.length
  orderly : ∀ n, t.OrderlyAt n

lemma Regular.goes (h : t.Regular) (hc : t.caller? c.id = some c) (hgoes : t.Goes engine c t') :
    t'.Regular := by
  have hlisted : ∀ cluster n, t'.table.get? cluster = some n → n < t'.slots.length := by
    intro cluster n hn
    rcases table_of_goes hgoes with ⟨htable, hlength⟩ | ⟨-, htable, hlength⟩
    · rw [htable] at hn
      rw [hlength]
      exact h.listed cluster n hn
    · rw [htable, NameMap.get?_insert] at hn
      split at hn
      · cases hn
        omega
      · have hlt := h.listed cluster n hn
        omega
  have hlength : t.slots.length ≤ t'.slots.length := by
    rcases table_of_goes hgoes with ⟨-, hlength⟩ | ⟨-, -, hlength⟩ <;> omega
  refine ⟨fun i d n hd hn => ?_, hlisted, fun n => ?_⟩
  · obtain ⟨d₀, hd₀, -, hleads⟩ := onward_of_goes (fun n _ => h.orderly n) hc hgoes i d hd
    rcases hleads.slot n hn with hn | hn
    · exact Nat.lt_of_lt_of_le (h.held i d₀ n hd₀ hn) hlength
    · exact hlisted _ n hn
  · refine (h.orderly n).goes (fun n _ => h.orderly n) (fun i d hd hn => ?_) hc hgoes
    exact Nat.lt_irrefl _ (h.held i d _ hd hn)

lemma placeAt_cancel (t : Traffic σ) (i n : Nat) : (t.cancel i).placeAt n = t.placeAt n :=
  funext fun j => map_caller?_cancel t i j fun _ => rfl

lemma Regular.cancel (h : t.Regular) (i : Nat) : (t.cancel i).Regular := by
  refine ⟨fun j d n hd hn => ?_, h.listed, fun n slot hslot => ?_⟩
  · obtain ⟨d₀, hd₀, rfl⟩ := of_caller?_cancel hd
    exact h.held j d₀ n hd₀ hn
  · rw [placeAt_cancel]
    exact h.orderly n slot hslot

lemma Regular.forget (h : t.Regular) (cluster : String) : (t.forget cluster).Regular := by
  refine ⟨h.held, fun cluster' n hn => ?_, h.orderly⟩
  change (t.table.erase cluster).get? cluster' = some n at hn
  rw [NameMap.get?_erase] at hn
  split at hn
  · cases hn
  · exact h.listed cluster' n hn

/-- Callers who each want a task done for a cluster, before anyone has come. -/
def crowd (fleet : Fleet) (s : σ) (wanted : List (ClusterSpec × Balancer.Task)) : Traffic σ :=
  { ofFleet fleet s with
    callers := wanted.zipIdx.map fun (call, i) => { id := i, spec := call.1, task := call.2 } }

/-- What traffic can come to: callers go on in any order, as far as they like, cancellations fire
and clusters are forgotten at any time. The clusters whose slot was taken from the table are put
down. -/
inductive Passes (engine : Engine σ) (start : Traffic σ) : List String → Traffic σ → Prop
  | start : Passes engine start [] start
  | step {forgotten : List String} {t t' : Traffic σ} (pace : Pace) (i : Nat) (woken : List Nat)
    (run : Passes engine start forgotten t) (goes : t.step pace engine i = some (t', woken)) :
    Passes engine start forgotten t'
  | cancel {forgotten : List String} {t : Traffic σ} (i : Nat)
    (run : Passes engine start forgotten t) : Passes engine start forgotten (t.cancel i)
  | forget {forgotten : List String} {t : Traffic σ} (cluster : String)
    (run : Passes engine start forgotten t) :
    Passes engine start (forgotten ++ if t.tracks cluster then [cluster] else [])
      (t.forget cluster)

variable {fleet : Fleet} {s : σ} {wanted : List (ClusterSpec × Balancer.Task)}

lemma of_caller?_crowd {d : Caller} (h : (crowd fleet s wanted).caller? i = some d) :
    d.phase = .arrived := by
  have hmem : d ∈ (crowd fleet s wanted).callers := List.mem_of_find?_eq_some h
  obtain ⟨call, -, rfl⟩ := List.mem_map.1 hmem
  rfl

lemma regular_crowd (fleet : Fleet) (s : σ) (wanted : List (ClusterSpec × Balancer.Task)) :
    (crowd fleet s wanted).Regular := by
  have hnobody : ∀ i d n, (crowd fleet s wanted).caller? i = some d →
      d.phase.slot? = some n → False := by
    intro i d n hd hn
    rw [of_caller?_crowd hd] at hn
    cases hn
  refine ⟨fun i d n hd hn => (hnobody i d n hd hn).elim, fun cluster n hn => ?_, ?_⟩
  · have hslot := slot_ofFleet (s := s) hn
    exact (List.getElem?_eq_some_iff.1 hslot).1
  · intro n slot hslot
    change (fleet.slots.values.map fun balancer => ({ balancer } : Slot))[n]? = some slot at hslot
    rw [List.getElem?_map] at hslot
    obtain ⟨balancer, -, rfl⟩ := Option.map_eq_some_iff.1 hslot
    refine Slot.orderly_new (fun i q hq => ?_) _
    obtain ⟨d, hd, rfl⟩ := placeAt_eq_some hq
    rw [of_caller?_crowd hd]
    rfl

/-- Traffic stays regular, whatever is forgotten. -/
theorem Passes.regular {start : Traffic σ} {forgotten : List String}
    (h : start.Passes engine forgotten t) (hstart : start.Regular) : t.Regular := by
  induction h with
  | start => exact hstart
  | step pace i woken run goes ih =>
    obtain ⟨c, hc, hgoes⟩ := goes_of_step goes
    obtain rfl := id_of_caller? hc
    exact ih.goes hc hgoes
  | cancel i run ih => exact ih.cancel i
  | forget cluster run ih => exact ih.forget cluster

lemma Passes.drive {start : Traffic σ} {order : List Nat} {forgotten : List String}
    (h : start.Passes engine forgotten t) (hdrive : t.drive engine order = some u) :
    start.Passes engine forgotten u := by
  induction order generalizing t with
  | nil =>
    cases hdrive
    exact h
  | cons i rest ih =>
    obtain ⟨⟨t', woken⟩, hstep, hrest⟩ := Option.bind_eq_some_iff.1 hdrive
    exact ih (h.step .move i woken hstep) hrest

/-- Two callers who ask for one cluster. -/
def pair (inv : Inventory) (task : Balancer.Task) : Traffic Inventory :=
  crowd {} inv [({ name := "demo" }, task), ({ name := "demo" }, task)]

end Traffic

end ApiBalancer
