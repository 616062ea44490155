import ApiBalancer.Proofs.CallerLines

/-!
# Steps of traffic

What a caller who goes on can do, case by case (`Traffic.Goes`), and that traffic for one cluster
stays orderly.
-/

namespace ApiBalancer.Traffic

variable {σ : Type} {t t' : Traffic σ} {engine : Engine σ} {i j : Nat} {ids : List Nat}

lemma id_of_caller? {c : Caller} (h : t.caller? i = some c) : c.id = i := by
  have hfound := List.find?_some h
  simpa using hfound

lemma caller?_changeCallers (t : Traffic σ) (ids : List Nat) {f : Caller → Caller}
    (hf : ∀ c, (f c).id = c.id) (i : Nat) :
    (t.changeCallers ids f).caller? i = (t.caller? i).map fun c => if i ∈ ids then f c else c := by
  have hsame : ∀ c : Caller, ((if c.id ∈ ids then f c else c).id == i) = (c.id == i) := by
    intro c
    split
    · rw [hf]
    · rfl
  unfold changeCallers caller?
  rw [List.find?_map]
  simp only [Function.comp_def, hsame]
  cases hfound : t.callers.find? (·.id == i) with
  | none => rfl
  | some c =>
    have hid : c.id = i := by simpa using List.find?_some hfound
    simp [hid]

lemma caller?_moveTo (t : Traffic σ) (ids : List Nat) (phase : Phase) (i : Nat) :
    (t.moveTo ids phase).caller? i =
      (t.caller? i).map fun c => if i ∈ ids then { c with phase } else c :=
  caller?_changeCallers t ids (f := fun c => { c with phase }) (fun _ => rfl) i

lemma caller?_cancel (t : Traffic σ) (i j : Nat) :
    (t.cancel i).caller? j =
      (t.caller? j).map fun c => if j ∈ [i] then { c with cancelled := true } else c :=
  caller?_changeCallers t [i] (f := fun c => { c with cancelled := true }) (fun _ => rfl) j

lemma of_caller?_cancel {i j : Nat} {d : Caller} (h : (t.cancel i).caller? j = some d) :
    ∃ c, t.caller? j = some c ∧ d = { c with cancelled := c.cancelled || j == i } := by
  rw [caller?_cancel] at h
  obtain ⟨c, hc, rfl⟩ := Option.map_eq_some_iff.1 h
  refine ⟨c, hc, ?_⟩
  by_cases hj : j = i
  · simp [hj]
  · have hbeq : (j == i) = false := by simp [hj]
    rw [if_neg (by simp [hj]), hbeq, Bool.or_false]

/-- What a cancellation leaves as it is about every caller. -/
lemma map_caller?_cancel {β : Type} (t : Traffic σ) (i j : Nat) {f : Caller → β}
    (hf : ∀ c, f { c with cancelled := true } = f c) :
    ((t.cancel i).caller? j).map f = (t.caller? j).map f := by
  rw [caller?_cancel, Option.map_map]
  congr 1
  funext c
  simp only [Function.comp_def]
  split
  · exact hf c
  · rfl

/-- Where each caller stands. -/
def place? (t : Traffic σ) (i : Nat) : Option Place := (t.caller? i).map (·.phase.place)

lemma place?_of_caller? {c : Caller} (h : t.caller? i = some c) :
    t.place? i = some c.phase.place := by
  unfold place?
  rw [h]
  rfl

lemma place?_moveTo (t : Traffic σ) (ids : List Nat) (phase : Phase) :
    (t.moveTo ids phase).place? = moved ids phase.place t.place? := by
  funext i
  unfold place? moved
  rw [caller?_moveTo]
  by_cases hi : i ∈ ids
  · simp [hi, Option.map_map, Function.comp_def]
  · simp [hi]

lemma place?_cancel (t : Traffic σ) (i : Nat) : (t.cancel i).place? = t.place? :=
  funext fun j => map_caller?_cancel t i j fun _ => rfl

/-- The traffic once the caller `c` has gone on. -/
inductive Goes (engine : Engine σ) (t : Traffic σ) (c : Caller) : Traffic σ → Prop
  | misses (hphase : c.phase = .arrived) (hslot : t.table.get? c.spec.name = none) :
    Goes engine t c (t.moveTo [c.id] .missed)
  | finds (n : Nat) (hphase : c.phase = .arrived ∨ c.phase = .missed)
    (hslot : t.table.get? c.spec.name = some n) :
    Goes engine t c (t.moveTo [c.id] (.atSlot n))
  | opens (hphase : c.phase = .missed) (hslot : t.table.get? c.spec.name = none) :
    Goes engine t c (moveTo { t with
      table := t.table.insert c.spec.name t.slots.length
      slots := t.slots ++ [({} : Slot)] } [c.id] (.atSlot t.slots.length))
  | passes (n : Nat) (slot : Slot) (hphase : c.phase = .atSlot n) (hslot : t.slots[n]? = some slot)
    (hbalancer : slot.balancer.isSome) :
    Goes engine t c (t.moveTo [c.id] (.atLock n))
  | asks (n : Nat) (slot : Slot) (hphase : c.phase = .atSlot n) (hslot : t.slots[n]? = some slot)
    (hbalancer : slot.balancer = none) :
    Goes engine t c ((t.changeSlot n fun s => { s with lookUp := s.lookUp.join c.id }).moveTo [c.id]
      (if slot.lookUp.isFree then .startsLookUp n else .waitsForLookUp n))
  | beginsLookUp (n : Nat) (slot : Slot) (hphase : c.phase = .startsLookUp n)
    (hslot : t.slots[n]? = some slot) :
    Goes engine t c (t.moveTo [c.id] (.looksUp n (Balancer.lookUp t.plan c.spec)))
  | looksOn (n : Nat) (slot : Slot) (work rest : Procedure BalancerError Balancer) (pace : Pace)
    (p : Progress σ) (hphase : c.phase = .looksUp n work) (hslot : t.slots[n]? = some slot)
    (hadvance : work.advance engine c.cancelled { engine := t.engine } pace = (p, .onward rest)) :
    Goes engine t c ((t.progressed c.id p).moveTo [c.id] (.looksUp n rest))
  | finishesLookUp (n : Nat) (slot : Slot) (work : Procedure BalancerError Balancer) (pace : Pace)
    (p : Progress σ) (b : Balancer) (hphase : c.phase = .looksUp n work)
    (hslot : t.slots[n]? = some slot)
    (hadvance : work.advance engine c.cancelled { engine := t.engine } pace =
      (p, .ended (.finished (.ok b)))) :
    Goes engine t c ((t.progressed c.id p).lookedUp c.id n slot b).1
  | failsLookUp (n : Nat) (slot : Slot) (work : Procedure BalancerError Balancer) (pace : Pace)
    (p : Progress σ) (e : BalancerError) (hphase : c.phase = .looksUp n work)
    (hslot : t.slots[n]? = some slot)
    (hadvance : work.advance engine c.cancelled { engine := t.engine } pace =
      (p, .ended (.finished (.error e)))) :
    Goes engine t c ((t.progressed c.id p).lookUpFailed c.id n slot e).1
  | sticksInLookUp (n : Nat) (slot : Slot) (work : Procedure BalancerError Balancer) (pace : Pace)
    (p : Progress σ) (ifCancelled : Option BalancerError) (hphase : c.phase = .looksUp n work)
    (hslot : t.slots[n]? = some slot)
    (hadvance : work.advance engine c.cancelled { engine := t.engine } pace =
      (p, .ended (.blocked ifCancelled))) :
    Goes engine t c ((t.progressed c.id p).moveTo [c.id] (.stuckInLookUp n ifCancelled))
  | leavesLookUp (n : Nat) (slot : Slot) (e : BalancerError)
    (hphase : c.phase = .stuckInLookUp n (some e)) (hslot : t.slots[n]? = some slot)
    (hcancelled : c.cancelled = true) :
    Goes engine t c (t.lookUpFailed c.id n slot e).1
  | queues (n : Nat) (slot : Slot) (hphase : c.phase = .atLock n)
    (hslot : t.slots[n]? = some slot) :
    Goes engine t c ((t.changeSlot n fun s => { s with lock := s.lock.join c.id }).moveTo [c.id]
      (if slot.lock.isFree then .startsWork n else .waitsForLock n))
  | beginsWork (n : Nat) (slot : Slot) (b : Balancer) (hphase : c.phase = .startsWork n)
    (hslot : t.slots[n]? = some slot) (hbalancer : slot.balancer = some b) :
    Goes engine t c ((t.changeSlot n fun s => { s with
      balancer := some (b.withImage (c.spec.resolveImage t.plan.image)) }).moveTo [c.id]
        (.works n ((b.withImage (c.spec.resolveImage t.plan.image)).perform t.plan c.task)))
  | worksOn (n : Nat) (slot : Slot)
    (work rest : Procedure BalancerError (Balancer × Balancer.Answer)) (pace : Pace)
    (p : Progress σ) (hphase : c.phase = .works n work) (hslot : t.slots[n]? = some slot)
    (hadvance : work.advance engine c.cancelled { engine := t.engine } pace = (p, .onward rest)) :
    Goes engine t c ((t.progressed c.id p).moveTo [c.id] (.works n rest))
  | finishesWork (n : Nat) (slot : Slot)
    (work : Procedure BalancerError (Balancer × Balancer.Answer)) (pace : Pace) (p : Progress σ)
    (result : Except BalancerError (Balancer × Balancer.Answer)) (hphase : c.phase = .works n work)
    (hslot : t.slots[n]? = some slot)
    (hadvance : work.advance engine c.cancelled { engine := t.engine } pace =
      (p, .ended (.finished result))) :
    Goes engine t c ((t.progressed c.id p).workEnded c.id n slot result).1
  | sticksInWork (n : Nat) (slot : Slot)
    (work : Procedure BalancerError (Balancer × Balancer.Answer)) (pace : Pace) (p : Progress σ)
    (ifCancelled : Option BalancerError) (hphase : c.phase = .works n work)
    (hslot : t.slots[n]? = some slot)
    (hadvance : work.advance engine c.cancelled { engine := t.engine } pace =
      (p, .ended (.blocked ifCancelled))) :
    Goes engine t c ((t.progressed c.id p).moveTo [c.id] (.stuckInWork n ifCancelled))
  | leavesWork (n : Nat) (slot : Slot) (e : BalancerError)
    (hphase : c.phase = .stuckInWork n (some e)) (hslot : t.slots[n]? = some slot)
    (hcancelled : c.cancelled = true) :
    Goes engine t c (t.workEnded c.id n slot (.error e)).1

section

variable {c : Caller} {n : Nat} {slot : Slot} {pace : Pace} {woken : List Nat}

lemma goes_atSlot (hphase : c.phase = .atSlot n) (hslot : t.slots[n]? = some slot)
    (h : t.stepAt pace engine c n slot = some (t', woken)) : t.Goes engine c t' := by
  unfold stepAt at h
  rw [hphase] at h
  dsimp only at h
  by_cases hbalancer : slot.balancer.isSome = true
  · rw [if_pos hbalancer] at h
    cases h
    exact .passes n slot hphase hslot hbalancer
  · rw [if_neg hbalancer] at h
    cases h
    exact .asks n slot hphase hslot (by simpa using hbalancer)

lemma goes_looksUp {work : Procedure BalancerError Balancer} (hphase : c.phase = .looksUp n work)
    (hslot : t.slots[n]? = some slot) (h : t.stepAt pace engine c n slot = some (t', woken)) :
    t.Goes engine c t' := by
  unfold stepAt at h
  rw [hphase] at h
  dsimp only at h
  generalize hadvance : work.advance engine c.cancelled { engine := t.engine } pace = run at h
  match run with
  | (p, .onward rest) =>
    cases h
    exact .looksOn n slot work rest pace p hphase hslot hadvance
  | (p, .ended (.finished (.ok b))) =>
    cases h
    exact .finishesLookUp n slot work pace p b hphase hslot hadvance
  | (p, .ended (.finished (.error e))) =>
    cases h
    exact .failsLookUp n slot work pace p e hphase hslot hadvance
  | (p, .ended (.blocked ifCancelled)) =>
    cases h
    exact .sticksInLookUp n slot work pace p ifCancelled hphase hslot hadvance

lemma goes_stuckInLookUp {ifCancelled : Option BalancerError}
    (hphase : c.phase = .stuckInLookUp n ifCancelled) (hslot : t.slots[n]? = some slot)
    (h : t.stepAt pace engine c n slot = some (t', woken)) : t.Goes engine c t' := by
  unfold stepAt at h
  rw [hphase] at h
  match ifCancelled with
  | none => cases h
  | some e =>
    dsimp only at h
    by_cases hcancelled : c.cancelled = true
    · rw [if_pos hcancelled] at h
      cases h
      exact .leavesLookUp n slot e hphase hslot hcancelled
    · rw [if_neg hcancelled] at h
      cases h

lemma goes_startsWork (hphase : c.phase = .startsWork n) (hslot : t.slots[n]? = some slot)
    (h : t.stepAt pace engine c n slot = some (t', woken)) : t.Goes engine c t' := by
  unfold stepAt at h
  rw [hphase] at h
  dsimp only at h
  cases hbalancer : slot.balancer with
  | none =>
    rw [hbalancer] at h
    cases h
  | some b =>
    rw [hbalancer] at h
    cases h
    exact .beginsWork n slot b hphase hslot hbalancer

lemma goes_works {work : Procedure BalancerError (Balancer × Balancer.Answer)}
    (hphase : c.phase = .works n work) (hslot : t.slots[n]? = some slot)
    (h : t.stepAt pace engine c n slot = some (t', woken)) : t.Goes engine c t' := by
  unfold stepAt at h
  rw [hphase] at h
  dsimp only at h
  generalize hadvance : work.advance engine c.cancelled { engine := t.engine } pace = run at h
  match run with
  | (p, .onward rest) =>
    cases h
    exact .worksOn n slot work rest pace p hphase hslot hadvance
  | (p, .ended (.finished result)) =>
    cases h
    exact .finishesWork n slot work pace p result hphase hslot hadvance
  | (p, .ended (.blocked ifCancelled)) =>
    cases h
    exact .sticksInWork n slot work pace p ifCancelled hphase hslot hadvance

lemma goes_stuckInWork {ifCancelled : Option BalancerError}
    (hphase : c.phase = .stuckInWork n ifCancelled) (hslot : t.slots[n]? = some slot)
    (h : t.stepAt pace engine c n slot = some (t', woken)) : t.Goes engine c t' := by
  unfold stepAt at h
  rw [hphase] at h
  match ifCancelled with
  | none => cases h
  | some e =>
    dsimp only at h
    by_cases hcancelled : c.cancelled = true
    · rw [if_pos hcancelled] at h
      cases h
      exact .leavesWork n slot e hphase hslot hcancelled
    · rw [if_neg hcancelled] at h
      cases h

lemma goes_of_stepAt (hn : c.phase.slot? = some n) (hslot : t.slots[n]? = some slot)
    (h : t.stepAt pace engine c n slot = some (t', woken)) : t.Goes engine c t' := by
  cases hphase : c.phase with
  | arrived | missed | returned =>
    rw [hphase] at hn
    cases hn
  | waitsForLookUp m | waitsForLock m =>
    unfold stepAt at h
    rw [hphase] at h
    cases h
  | atSlot m =>
    rw [hphase] at hn
    cases hn
    exact goes_atSlot hphase hslot h
  | startsLookUp m =>
    rw [hphase] at hn
    cases hn
    unfold stepAt at h
    rw [hphase] at h
    cases h
    exact .beginsLookUp n slot hphase hslot
  | looksUp m work =>
    rw [hphase] at hn
    cases hn
    exact goes_looksUp hphase hslot h
  | stuckInLookUp m ifCancelled =>
    rw [hphase] at hn
    cases hn
    exact goes_stuckInLookUp hphase hslot h
  | atLock m =>
    rw [hphase] at hn
    cases hn
    unfold stepAt at h
    rw [hphase] at h
    cases h
    exact .queues n slot hphase hslot
  | startsWork m =>
    rw [hphase] at hn
    cases hn
    exact goes_startsWork hphase hslot h
  | works m work =>
    rw [hphase] at hn
    cases hn
    exact goes_works hphase hslot h
  | stuckInWork m ifCancelled =>
    rw [hphase] at hn
    cases hn
    exact goes_stuckInWork hphase hslot h

end

/-- A step is something that the caller can do. -/
theorem goes_of_step {pace : Pace} {woken : List Nat}
    (h : t.step pace engine i = some (t', woken)) :
    ∃ c, t.caller? i = some c ∧ t.Goes engine c t' := by
  unfold step at h
  cases hc : t.caller? i with
  | none =>
    rw [hc] at h
    cases h
  | some c =>
    refine ⟨c, rfl, ?_⟩
    obtain rfl := id_of_caller? hc
    rw [hc] at h
    dsimp only at h
    split at h
    · next hphase hslot =>
      cases h
      exact .misses hphase hslot
    · next n hphase hslot =>
      cases h
      exact .finds n (.inl hphase) hslot
    · next n hphase hslot =>
      cases h
      exact .finds n (.inr hphase) hslot
    · next hphase hslot =>
      cases h
      exact .opens hphase hslot
    · cases hn : c.phase.slot? with
      | none =>
        rw [hn] at h
        cases h
      | some n =>
        rw [hn] at h
        dsimp only at h
        cases hslot : t.slots[n]? with
        | none =>
          rw [hslot] at h
          cases h
        | some slot =>
          rw [hslot] at h
          exact goes_of_stepAt hn hslot h

/-! ### Order -/

/-- Whether all callers are there for the cluster, and each is at the slot of the table if it is at
a slot. -/
structure Placed (cluster : String) (t : Traffic σ) : Prop where
  named : ∀ i c, t.caller? i = some c → c.spec.name = cluster
  placed : ∀ i c n, t.caller? i = some c → c.phase.slot? = some n →
    t.table.get? cluster = some n

/-- Traffic for one cluster is in order if all callers are at the cluster's slot, whose lines know
them. -/
structure Orderly (cluster : String) (t : Traffic σ) : Prop extends t.Placed cluster where
  slotted : ∀ n, t.table.get? cluster = some n →
    ∃ slot, t.slots[n]? = some slot ∧ slot.Orderly t.place?

variable {cluster : String}

lemma Placed.moveTo (h : t.Placed cluster) (ids : List Nat) (phase : Phase)
    (hphase : ∀ n, phase.slot? = some n → t.table.get? cluster = some n) :
    (t.moveTo ids phase).Placed cluster := by
  constructor
  · intro i c hc
    rw [caller?_moveTo] at hc
    obtain ⟨c₀, hc₀, rfl⟩ := Option.map_eq_some_iff.1 hc
    split
    · exact h.named i c₀ hc₀
    · exact h.named i c₀ hc₀
  · intro i c n hc hn
    rw [caller?_moveTo] at hc
    obtain ⟨c₀, hc₀, rfl⟩ := Option.map_eq_some_iff.1 hc
    split at hn
    · exact hphase n hn
    · exact h.placed i c₀ n hc₀ hn

lemma place_eq_outside {phase : Phase} (h : phase.slot? = none) : phase.place = .outside := by
  cases phase <;> first | rfl | cases h

/-- The slot of a caller, in the table and in order. -/
lemma Orderly.slot_of_caller? (h : t.Orderly cluster) {c : Caller} {n : Nat} {slot : Slot}
    (hc : t.caller? i = some c) (hn : c.phase.slot? = some n) (hslot : t.slots[n]? = some slot) :
    t.table.get? cluster = some n ∧ slot.Orderly t.place? := by
  have htable := h.placed i c n hc hn
  obtain ⟨slot', hslot', horderly⟩ := h.slotted n htable
  rw [hslot] at hslot'
  cases hslot'
  exact ⟨htable, horderly⟩

/-- After a move, traffic is in order if the one slot is. -/
lemma Placed.orderly_moveTo (h : t.Placed cluster) {n : Nat} {slot : Slot} {phase : Phase}
    (htable : t.table.get? cluster = some n) (hslot : t.slots[n]? = some slot)
    (hphase : ∀ m, phase.slot? = some m → m = n)
    (horderly : slot.Orderly (moved ids phase.place t.place?)) :
    (t.moveTo ids phase).Orderly cluster := by
  refine ⟨h.moveTo ids phase ?_, fun n' hn' => ?_⟩
  · intro m hm
    rw [hphase m hm]
    exact htable
  · cases htable.symm.trans hn'
    rw [place?_moveTo]
    exact ⟨slot, hslot, horderly⟩

lemma getElem?_changeSlot {n : Nat} {slot : Slot} (hslot : t.slots[n]? = some slot)
    (f : Slot → Slot) : (t.changeSlot n f).slots[n]? = some (f slot) := by
  change (t.slots.modify n f)[n]? = some (f slot)
  rw [List.getElem?_modify_eq, hslot]
  rfl

/-- A caller that goes on in its place leaves the order as it is. -/
lemma Orderly.stay {u : Traffic σ} (h : t.Orderly cluster) {c : Caller} {n : Nat} {slot : Slot}
    {phase : Phase} (hc : t.caller? i = some c) (hn : c.phase.slot? = some n)
    (hcallers : u.callers = t.callers) (htable : u.table = t.table)
    (hslot : u.slots[n]? = some slot) (horderly : slot.Orderly t.place?)
    (hphase : phase.slot? = some n) (hplace : phase.place = c.phase.place) :
    (u.moveTo [i] phase).Orderly cluster := by
  have hcaller : u.caller? = t.caller? := by
    unfold caller?
    rw [hcallers]
  have hplaces : u.place? = t.place? := by
    unfold place?
    rw [hcaller]
  have hu : u.Placed cluster := by
    constructor
    · rw [hcaller]
      exact h.named
    · rw [hcaller, htable]
      exact h.placed
  refine hu.orderly_moveTo ?_ hslot ?_ ?_
  · rw [htable]
    exact h.placed i c n hc hn
  · intro m hm
    exact Option.some.inj (hm.symm.trans hphase)
  · rw [hplaces, hplace, moved_self (place?_of_caller? hc)]
    exact horderly

/-- A caller that changes its slot and moves on leaves the order if the slot is in order. -/
lemma Orderly.changeSlot_moveTo (h : t.Orderly cluster) {c : Caller} {n : Nat} {slot : Slot}
    {phase : Phase} (hc : t.caller? c.id = some c) (hn : c.phase.slot? = some n)
    (hslot : t.slots[n]? = some slot) (f : Slot → Slot) (hphase : ∀ m, phase.slot? = some m → m = n)
    (horderly : (f slot).Orderly (moved ids phase.place t.place?)) :
    ((t.changeSlot n f).moveTo ids phase).Orderly cluster := by
  obtain ⟨htable, -⟩ := h.slot_of_caller? hc hn hslot
  have hu : (t.changeSlot n f).Placed cluster := ⟨h.named, h.placed⟩
  exact hu.orderly_moveTo htable (getElem?_changeSlot hslot f) hphase horderly

lemma Orderly.lookedUp (h : t.Orderly cluster) {c : Caller} {n : Nat} {slot : Slot}
    (hc : t.caller? c.id = some c) (hn : c.phase.slot? = some n) (hslot : t.slots[n]? = some slot)
    (hplace : c.phase.place = .lookUp) (b : Balancer) :
    (t.lookedUp c.id n slot b).1.Orderly cluster := by
  obtain ⟨-, horderly⟩ := h.slot_of_caller? hc hn hslot
  refine h.changeSlot_moveTo hc hn hslot _ ?_ ?_
  · rintro m ⟨⟩
    rfl
  · exact horderly.lookedUp (by rw [place?_of_caller? hc, hplace]) b

lemma Orderly.lookUpFailed (h : t.Orderly cluster) {c : Caller} {n : Nat} {slot : Slot}
    (hc : t.caller? c.id = some c) (hn : c.phase.slot? = some n) (hslot : t.slots[n]? = some slot)
    (hplace : c.phase.place = .lookUp) (e : BalancerError) :
    (t.lookUpFailed c.id n slot e).1.Orderly cluster := by
  obtain ⟨htable, horderly⟩ := h.slot_of_caller? hc hn hslot
  have hu : (t.changeSlot n fun s => { s with lookUp := slot.lookUp.leave }).Placed cluster :=
    ⟨h.named, h.placed⟩
  have hnext := hu.moveTo (slot.lookUp.waiting.take 1) (.startsLookUp n) (by
    rintro m ⟨⟩
    exact htable)
  refine hnext.orderly_moveTo htable (getElem?_changeSlot hslot _) nofun ?_
  rw [place?_moveTo]
  exact horderly.lookUpFailed (by rw [place?_of_caller? hc, hplace])

lemma Orderly.workEnded (h : t.Orderly cluster) {c : Caller} {n : Nat} {slot : Slot}
    (hc : t.caller? c.id = some c) (hn : c.phase.slot? = some n) (hslot : t.slots[n]? = some slot)
    (hplace : c.phase.place = .lock)
    (result : Except BalancerError (Balancer × Balancer.Answer)) :
    (t.workEnded c.id n slot result).1.Orderly cluster := by
  obtain ⟨htable, horderly⟩ := h.slot_of_caller? hc hn hslot
  have hlock : t.place? c.id = some .lock := by rw [place?_of_caller? hc, hplace]
  have hsome := horderly.balancer_isSome hlock (.inr (.inr rfl))
  have hended : ∀ (balancer : Option Balancer) (answer : Except BalancerError Balancer.Answer),
      balancer.isSome →
      (((t.changeSlot n fun s => { s with balancer, lock := slot.lock.leave }).moveTo
        (slot.lock.waiting.take 1) (.startsWork n)).moveTo [c.id]
          (.returned answer)).Orderly cluster := by
    intro balancer answer hbalancer
    have hu : (t.changeSlot n fun s => { s with balancer, lock := slot.lock.leave }).Placed
        cluster := ⟨h.named, h.placed⟩
    have hnext := hu.moveTo (slot.lock.waiting.take 1) (.startsWork n) (by
      rintro m ⟨⟩
      exact htable)
    refine hnext.orderly_moveTo htable (getElem?_changeSlot hslot _) nofun ?_
    rw [place?_moveTo]
    exact horderly.workEnded hlock hbalancer
  cases result with
  | ok value => exact hended (some value.1) _ rfl
  | error e => exact hended slot.balancer _ hsome

lemma Orderly.finds (h : t.Orderly cluster) {c : Caller} {n : Nat} (hc : t.caller? c.id = some c)
    (hphase : c.phase = .arrived ∨ c.phase = .missed) (htable : t.table.get? cluster = some n) :
    (t.moveTo [c.id] (.atSlot n)).Orderly cluster := by
  have houtside : t.place? c.id = some .outside := by
    rw [place?_of_caller? hc]
    rcases hphase with hphase | hphase <;> rw [hphase] <;> rfl
  obtain ⟨slot, hslot, horderly⟩ := h.slotted n htable
  refine h.toPlaced.orderly_moveTo htable hslot ?_ ?_
  · rintro m ⟨⟩
    rfl
  · rw [Phase.place, moved_self houtside]
    exact horderly

/-- Whoever opens the slot of the cluster finds nobody there. -/
lemma Orderly.opens (h : t.Orderly cluster) (htable : t.table.get? cluster = none) (i : Nat) :
    (moveTo { t with
      table := t.table.insert cluster t.slots.length
      slots := t.slots ++ [({} : Slot)] } [i] (.atSlot t.slots.length)).Orderly cluster := by
  have hnowhere : ∀ i c, t.caller? i = some c → c.phase.slot? = none := by
    intro i c hc
    cases hn : c.phase.slot? with
    | none => rfl
    | some n => cases htable.symm.trans (h.placed i c n hc hn)
  let opened : Traffic σ := { t with
    table := t.table.insert cluster t.slots.length
    slots := t.slots ++ [({} : Slot)] }
  have hopened : opened.Placed cluster := by
    refine ⟨h.named, fun i c n hc hn => ?_⟩
    cases (hnowhere i c hc).symm.trans hn
  have hlast : opened.slots[t.slots.length]? = some {} := by simp [opened]
  refine hopened.orderly_moveTo (NameMap.get?_insert_self _ _ _) hlast ?_ ?_
  · rintro m ⟨⟩
    rfl
  · refine Slot.orderly_new (fun i q hq => ?_) none
    rcases moved_eq_some hq with ⟨-, rfl, -⟩ | ⟨-, hq⟩
    · rfl
    · obtain ⟨c', hc', rfl⟩ := Option.map_eq_some_iff.1 hq
      exact place_eq_outside (hnowhere i c' hc')

/-- Traffic for one cluster stays in order. -/
theorem Orderly.goes {c : Caller} (h : t.Orderly cluster) (hc : t.caller? c.id = some c)
    (hgoes : t.Goes engine c t') : t'.Orderly cluster := by
  have hname : c.spec.name = cluster := h.named _ c hc
  have hplace : t.place? c.id = some c.phase.place := place?_of_caller? hc
  have hprogressed : ∀ p : Progress σ, (t.progressed c.id p).Orderly cluster :=
    fun p => ⟨⟨h.named, h.placed⟩, h.slotted⟩
  cases hgoes with
  | misses hphase hslot =>
    rw [hname] at hslot
    refine ⟨h.toPlaced.moveTo _ _ nofun, fun n hn => ?_⟩
    cases hslot.symm.trans hn
  | finds n hphase hslot => exact h.finds hc hphase (hname ▸ hslot)
  | opens hphase hslot =>
    rw [hname] at hslot ⊢
    exact h.opens hslot c.id
  | passes n slot hphase hslot hbalancer =>
    obtain ⟨htable, horderly⟩ := h.slot_of_caller? hc (by rw [hphase]; rfl) hslot
    rw [hphase] at hplace
    refine h.toPlaced.orderly_moveTo htable hslot ?_ (horderly.pass hplace hbalancer)
    rintro m ⟨⟩
    rfl
  | asks n slot hphase hslot hbalancer =>
    obtain ⟨-, horderly⟩ := h.slot_of_caller? hc (by rw [hphase]; rfl) hslot
    rw [hphase] at hplace
    refine h.changeSlot_moveTo hc (by rw [hphase]; rfl) hslot _ ?_ ?_
    · intro m hm
      split at hm <;> cases hm <;> rfl
    · rw [apply_ite Phase.place]
      exact horderly.joinLookUp hplace hbalancer
  | queues n slot hphase hslot =>
    obtain ⟨-, horderly⟩ := h.slot_of_caller? hc (by rw [hphase]; rfl) hslot
    rw [hphase] at hplace
    refine h.changeSlot_moveTo hc (by rw [hphase]; rfl) hslot _ ?_ ?_
    · intro m hm
      split at hm <;> cases hm <;> rfl
    · rw [apply_ite Phase.place]
      exact horderly.joinLock hplace
  | beginsLookUp n slot hphase hslot | looksOn n slot _ _ _ _ hphase hslot
  | sticksInLookUp n slot _ _ _ _ hphase hslot | worksOn n slot _ _ _ _ hphase hslot
  | sticksInWork n slot _ _ _ _ hphase hslot =>
    have hn : c.phase.slot? = some n := by rw [hphase]; rfl
    obtain ⟨-, horderly⟩ := h.slot_of_caller? hc hn hslot
    exact h.stay hc hn rfl rfl hslot horderly rfl (by rw [hphase]; rfl)
  | beginsWork n slot b hphase hslot hbalancer =>
    have hn : c.phase.slot? = some n := by rw [hphase]; rfl
    obtain ⟨-, horderly⟩ := h.slot_of_caller? hc hn hslot
    have hsome : slot.balancer.isSome := by rw [hbalancer]; rfl
    exact h.stay hc hn rfl rfl (getElem?_changeSlot hslot _) (horderly.withBalancer hsome _) rfl
      (by rw [hphase]; rfl)
  | finishesLookUp n slot work pace p b hphase hslot hadvance =>
    exact (hprogressed p).lookedUp hc (by rw [hphase]; rfl) hslot (by rw [hphase]; rfl) b
  | failsLookUp n slot work pace p e hphase hslot hadvance =>
    exact (hprogressed p).lookUpFailed hc (by rw [hphase]; rfl) hslot (by rw [hphase]; rfl) e
  | leavesLookUp n slot e hphase hslot hcancelled =>
    exact h.lookUpFailed hc (by rw [hphase]; rfl) hslot (by rw [hphase]; rfl) e
  | finishesWork n slot work pace p result hphase hslot hadvance =>
    exact (hprogressed p).workEnded hc (by rw [hphase]; rfl) hslot (by rw [hphase]; rfl) result
  | leavesWork n slot e hphase hslot hcancelled =>
    exact h.workEnded hc (by rw [hphase]; rfl) hslot (by rw [hphase]; rfl) _

/-- A cancellation leaves the order as it is. -/
lemma Orderly.cancel (h : t.Orderly cluster) (i : Nat) : (t.cancel i).Orderly cluster := by
  refine ⟨⟨?_, ?_⟩, ?_⟩
  · intro j d hd
    obtain ⟨c, hc, rfl⟩ := of_caller?_cancel hd
    exact h.named j c hc
  · intro j d n hd hn
    obtain ⟨c, hc, rfl⟩ := of_caller?_cancel hd
    exact h.placed j c n hc hn
  · rw [place?_cancel]
    exact h.slotted

end ApiBalancer.Traffic
