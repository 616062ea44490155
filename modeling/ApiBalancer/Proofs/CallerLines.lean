import ApiBalancer.Fleet.Concurrent
import Mathlib.Data.List.Nodup

/-!
# Callers and lines

Where each caller of a cluster stands, and that the two lines of the cluster's slot know it: the
line for the look-up and the line for the lock each pass from their holder to the first of those who
wait. `Traffic.Orderly` holds of every traffic for one cluster.
-/

namespace ApiBalancer

/-- Where a caller stands with regard to the lines of its slot. -/
inductive Place where
  | outside
  | lookUpLine
  | lookUp
  /-- Past the look-up, but not in the line for the lock. -/
  | hall
  | lockLine
  | lock
deriving DecidableEq

def Phase.place : Phase → Place
  | .arrived | .missed | .atSlot _ | .returned _ => .outside
  | .waitsForLookUp _ => .lookUpLine
  | .startsLookUp _ | .looksUp _ _ | .stuckInLookUp _ _ => .lookUp
  | .atLock _ => .hall
  | .waitsForLock _ => .lockLine
  | .startsWork _ | .works _ _ | .stuckInWork _ _ => .lock

/-- The places once some callers have moved to `pl`. -/
def moved (ids : List Nat) (pl : Place) (f : Nat → Option Place) : Nat → Option Place :=
  fun i => if i ∈ ids then (f i).map fun _ => pl else f i

section moved

variable {ids : List Nat} {pl q : Place} {f : Nat → Option Place} {i : Nat}

lemma moved_of_mem (h : i ∈ ids) : moved ids pl f i = (f i).map fun _ => pl := if_pos h

lemma moved_of_not_mem (h : i ∉ ids) : moved ids pl f i = f i := if_neg h

lemma moved_eq_some (h : moved ids pl f i = some q) :
    (i ∈ ids ∧ q = pl ∧ (f i).isSome) ∨ (i ∉ ids ∧ f i = some q) := by
  by_cases hi : i ∈ ids
  · rw [moved_of_mem hi] at h
    obtain ⟨q', hq', rfl⟩ := Option.map_eq_some_iff.1 h
    exact .inl ⟨hi, rfl, by rw [hq']; rfl⟩
  · rw [moved_of_not_mem hi] at h
    exact .inr ⟨hi, h⟩

lemma moved_self (h : f i = some pl) : moved [i] pl f = f := by
  funext j
  by_cases hj : j = i
  · rw [hj, moved_of_mem List.mem_cons_self, h]
    rfl
  · exact moved_of_not_mem (by simpa using hj)

end moved

namespace Line

/-- Whether a line knows those who stand at two places: where one waits for its thing, and where
one has it. -/
structure Serves (line : Line) (f : Nat → Option Place) (waits holds : Place) : Prop where
  waiting_iff : ∀ i pl, f i = some pl → (pl = waits ↔ i ∈ line.waiting)
  holder_iff : ∀ i pl, f i = some pl → (pl = holds ↔ line.holder = some i)
  nodup : line.waiting.Nodup

variable {line : Line} {f : Nat → Option Place} {waits holds pl : Place} {i : Nat}

/-- Moves from and to other places do not concern a line. -/
lemma Serves.others {ids : List Nat} (h : line.Serves f waits holds)
    (hfrom : ∀ j ∈ ids, ∀ q, f j = some q → q ≠ waits ∧ q ≠ holds)
    (hto : pl ≠ waits ∧ pl ≠ holds) : line.Serves (moved ids pl f) waits holds := by
  refine ⟨?_, ?_, h.nodup⟩
  · intro j q hq
    rcases moved_eq_some hq with ⟨hj, rfl, hsome⟩ | ⟨-, hq⟩
    · obtain ⟨q', hq'⟩ := Option.isSome_iff_exists.1 hsome
      have hnot := (hfrom j hj q' hq').1
      rw [Ne, h.waiting_iff j q' hq'] at hnot
      exact ⟨fun heq => (hto.1 heq).elim, fun hmem => (hnot hmem).elim⟩
    · exact h.waiting_iff j q hq
  · intro j q hq
    rcases moved_eq_some hq with ⟨hj, rfl, hsome⟩ | ⟨-, hq⟩
    · obtain ⟨q', hq'⟩ := Option.isSome_iff_exists.1 hsome
      have hnot := (hfrom j hj q' hq').2
      rw [Ne, h.holder_iff j q' hq'] at hnot
      exact ⟨fun heq => (hto.2 heq).elim, fun hholds => (hnot hholds).elim⟩
    · exact h.holder_iff j q hq

lemma Serves.join (h : line.Serves f waits holds) (hne : waits ≠ holds) (hi : f i = some pl)
    (hpl : pl ≠ waits ∧ pl ≠ holds) :
    (line.join i).Serves (moved [i] (if line.isFree then holds else waits) f) waits holds := by
  have hwaits : i ∉ line.waiting := fun hmem => hpl.1 ((h.waiting_iff i pl hi).2 hmem)
  obtain ⟨holder, waiting⟩ := line
  cases holder with
  | none =>
    refine ⟨?_, ?_, h.nodup⟩
    · intro j q hq
      rcases moved_eq_some hq with ⟨hj, rfl, -⟩ | ⟨-, hq⟩
      · rw [List.mem_singleton.1 hj]
        exact ⟨fun heq => (hne heq.symm).elim, fun hmem => (hwaits hmem).elim⟩
      · exact h.waiting_iff j q hq
    · intro j q hq
      rcases moved_eq_some hq with ⟨hj, rfl, -⟩ | ⟨hj, hq⟩
      · rw [List.mem_singleton.1 hj]
        exact ⟨fun _ => rfl, fun _ => rfl⟩
      · have hij : ¬i = j := fun heq => hj (by simp [heq])
        rw [h.holder_iff j q hq]
        simp [join, hij]
  | some other =>
    refine ⟨?_, ?_, ?_⟩
    · intro j q hq
      change q = waits ↔ j ∈ waiting ++ [i]
      rcases moved_eq_some hq with ⟨hj, rfl, -⟩ | ⟨hj, hq⟩
      · rw [List.mem_singleton.1 hj]
        simp
      · have hij : ¬j = i := fun heq => hj (by simp [heq])
        rw [h.waiting_iff j q hq]
        simp [hij]
    · intro j q hq
      rcases moved_eq_some hq with ⟨hj, rfl, -⟩ | ⟨-, hq⟩
      · have hholder : ¬some other = some i := fun heq => hpl.2 ((h.holder_iff i pl hi).2 heq)
        rw [List.mem_singleton.1 hj]
        exact ⟨fun heq => (hne heq).elim, fun heq => (hholder heq).elim⟩
      · exact h.holder_iff j q hq
    · change (waiting ++ [i]).Nodup
      exact List.nodup_append.2 ⟨h.nodup, List.nodup_singleton i, by
        intro a ha b hb heq
        rw [List.mem_singleton.1 hb] at heq
        exact hwaits (heq ▸ ha)⟩

lemma Serves.leave (h : line.Serves f waits holds) (hne : waits ≠ holds) (hi : f i = some holds)
    (hpl : pl ≠ waits ∧ pl ≠ holds) :
    line.leave.Serves (moved [i] pl (moved (line.waiting.take 1) holds f)) waits holds := by
  have hholder : line.holder = some i := (h.holder_iff i holds hi).1 rfl
  have hwaits : i ∉ line.waiting := fun hmem => hne ((h.waiting_iff i holds hi).2 hmem).symm
  obtain ⟨holder, waiting⟩ := line
  cases hholder
  cases waiting with
  | nil =>
    refine ⟨?_, ?_, h.nodup⟩
    · intro j q hq
      rcases moved_eq_some hq with ⟨hj, rfl, -⟩ | ⟨-, hq⟩
      · simp [Line.leave, hpl.1]
      · rcases moved_eq_some hq with ⟨hj, -⟩ | ⟨-, hq⟩
        · cases hj
        · exact h.waiting_iff j q hq
    · intro j q hq
      rcases moved_eq_some hq with ⟨hj, rfl, -⟩ | ⟨hij, hq⟩
      · simp [Line.leave, hpl.2]
      · rcases moved_eq_some hq with ⟨hj, -⟩ | ⟨-, hq⟩
        · cases hj
        · rw [h.holder_iff j q hq]
          have hne' : ¬i = j := fun heq => hij (by simp [heq])
          simp [Line.leave, hne']
  | cons next rest =>
    obtain ⟨hnext, hrest⟩ := List.nodup_cons.1 h.nodup
    refine ⟨?_, ?_, hrest⟩
    · intro j q hq
      change q = waits ↔ j ∈ rest
      rcases moved_eq_some hq with ⟨hj, rfl, -⟩ | ⟨-, hq⟩
      · rw [List.mem_singleton.1 hj]
        refine ⟨fun heq => (hpl.1 heq).elim, fun hmem => (hwaits ?_).elim⟩
        exact List.mem_cons_of_mem _ hmem
      · rcases moved_eq_some hq with ⟨hj, rfl, -⟩ | ⟨hj, hq⟩
        · rw [List.mem_singleton.1 hj]
          exact ⟨fun heq => (hne heq.symm).elim, fun hmem => (hnext hmem).elim⟩
        · have hij : ¬j = next := fun heq => hj (by simp [heq])
          rw [h.waiting_iff j q hq]
          simp [hij]
    · intro j q hq
      change q = holds ↔ some next = some j
      rcases moved_eq_some hq with ⟨hj, rfl, -⟩ | ⟨hij, hq⟩
      · rw [List.mem_singleton.1 hj]
        refine ⟨fun heq => (hpl.2 heq).elim, fun heq => (hwaits ?_).elim⟩
        rw [Option.some.inj heq]
        exact List.mem_cons_self
      · rcases moved_eq_some hq with ⟨hj, rfl, -⟩ | ⟨hj, hq⟩
        · rw [List.mem_singleton.1 hj]
          exact ⟨fun _ => rfl, fun _ => rfl⟩
        · have hij' : ¬i = j := fun heq => hij (by simp [heq])
          have hnj : ¬next = j := fun heq => hj (by simp [heq])
          rw [h.holder_iff j q hq]
          simp [hij', hnj]

end Line

/-! ### Slots -/

namespace Slot

/-- Whether the lines of a slot know the callers, nobody waits for a look-up of a balancer that is
there, and nobody is past the look-up of one that is not. -/
structure Orderly (slot : Slot) (f : Nat → Option Place) : Prop where
  lookUp : slot.lookUp.Serves f .lookUpLine .lookUp
  lock : slot.lock.Serves f .lockLine .lock
  found : slot.balancer.isSome → slot.lookUp = {}
  absent : slot.balancer = none →
    ∀ i q, f i = some q → q = .outside ∨ q = .lookUpLine ∨ q = .lookUp

variable {slot : Slot} {f : Nat → Option Place} {i j : Nat}

lemma orderly_new (h : ∀ i q, f i = some q → q = .outside) (balancer : Option Balancer) :
    ({ balancer } : Slot).Orderly f := by
  have hserves : ∀ waits holds : Place, waits ≠ .outside → holds ≠ .outside →
      ({} : Line).Serves f waits holds := by
    intro waits holds hwaits hholds
    refine ⟨?_, ?_, List.nodup_nil⟩
    · intro i q hq
      rw [h i q hq]
      simpa using hwaits.symm
    · intro i q hq
      rw [h i q hq]
      simpa using hholds.symm
  refine ⟨hserves _ _ nofun nofun, hserves _ _ nofun nofun, fun _ => rfl, ?_⟩
  exact fun _ i q hq => .inl (h i q hq)

/-- A caller who has or awaits a look-up finds no balancer. -/
lemma Orderly.balancer_eq_none (h : slot.Orderly f) (hi : f i = some .lookUp) :
    slot.balancer = none := by
  cases hb : slot.balancer with
  | none => rfl
  | some b =>
    have hholder := (h.lookUp.holder_iff i _ hi).1 rfl
    rw [h.found (by rw [hb]; rfl)] at hholder
    cases hholder

lemma Orderly.balancer_isSome (h : slot.Orderly f) {q : Place} (hi : f i = some q)
    (hq : q = .hall ∨ q = .lockLine ∨ q = .lock) : slot.balancer.isSome := by
  cases hb : slot.balancer with
  | some b => rfl
  | none => rcases h.absent hb i q hi with rfl | rfl | rfl <;> simp at hq

lemma Orderly.eq_of_engaged (h : slot.Orderly f) {q q' : Place} (hi : f i = some q)
    (hj : f j = some q') (hq : q = .lookUp ∨ q = .lock) (hq' : q' = .lookUp ∨ q' = .lock) :
    i = j := by
  rcases hq with rfl | rfl
  · have hnone := h.balancer_eq_none hi
    rcases hq' with rfl | rfl
    · have hholder := (h.lookUp.holder_iff i _ hi).1 rfl
      rw [(h.lookUp.holder_iff j _ hj).1 rfl] at hholder
      exact (Option.some.inj hholder).symm
    · have hsome := h.balancer_isSome hj (.inr (.inr rfl))
      rw [hnone] at hsome
      cases hsome
  · rcases hq' with rfl | rfl
    · have hsome := h.balancer_isSome hi (.inr (.inr rfl))
      rw [h.balancer_eq_none hj] at hsome
      cases hsome
    · have hholder := (h.lock.holder_iff i _ hi).1 rfl
      rw [(h.lock.holder_iff j _ hj).1 rfl] at hholder
      exact (Option.some.inj hholder).symm

lemma Orderly.withBalancer (h : slot.Orderly f) (hsome : slot.balancer.isSome) (b : Balancer) :
    ({ slot with balancer := some b } : Slot).Orderly f :=
  ⟨h.lookUp, h.lock, fun _ => h.found hsome, nofun⟩

/-- A caller who finds the balancer there goes on to the lock. -/
lemma Orderly.pass (h : slot.Orderly f) (hi : f i = some .outside)
    (hsome : slot.balancer.isSome) : slot.Orderly (moved [i] .hall f) := by
  have hfrom : ∀ (waits holds : Place), waits ≠ .outside → holds ≠ .outside →
      ∀ j ∈ [i], ∀ q, f j = some q → q ≠ waits ∧ q ≠ holds := by
    intro waits holds hwaits hholds j hj q hq
    rw [List.mem_singleton.1 hj, hi] at hq
    cases hq
    exact ⟨hwaits.symm, hholds.symm⟩
  refine ⟨h.lookUp.others (hfrom _ _ nofun nofun) ⟨nofun, nofun⟩,
    h.lock.others (hfrom _ _ nofun nofun) ⟨nofun, nofun⟩, h.found, ?_⟩
  intro hnone
  rw [hnone] at hsome
  cases hsome

lemma Orderly.joinLookUp (h : slot.Orderly f) (hi : f i = some .outside)
    (hnone : slot.balancer = none) :
    ({ slot with lookUp := slot.lookUp.join i } : Slot).Orderly
      (moved [i] (if slot.lookUp.isFree then .lookUp else .lookUpLine) f) := by
  refine ⟨h.lookUp.join nofun hi ⟨nofun, nofun⟩, h.lock.others ?_ ?_, ?_, ?_⟩
  · intro j hj q hq
    rw [List.mem_singleton.1 hj, hi] at hq
    cases hq
    exact ⟨nofun, nofun⟩
  · split <;> exact ⟨nofun, nofun⟩
  · intro hsome
    rw [hnone] at hsome
    cases hsome
  · intro _ j q hq
    rcases moved_eq_some hq with ⟨-, rfl, -⟩ | ⟨-, hq⟩
    · split
      · exact .inr (.inr rfl)
      · exact .inr (.inl rfl)
    · exact h.absent hnone j q hq

/-- The look-up has succeeded: everybody who has waited for it goes on to the lock. -/
lemma Orderly.lookedUp (h : slot.Orderly f) (hi : f i = some .lookUp) (b : Balancer) :
    ({ slot with balancer := some b, lookUp := {} } : Slot).Orderly
      (moved (i :: slot.lookUp.waiting) .hall f) := by
  have hnone := h.balancer_eq_none hi
  refine ⟨⟨?_, ?_, List.nodup_nil⟩, h.lock.others ?_ ⟨nofun, nofun⟩, fun _ => rfl, nofun⟩
  · intro j q hq
    rcases moved_eq_some hq with ⟨-, rfl, -⟩ | ⟨hj, hq⟩
    · simp
    · have hnot : ¬j ∈ slot.lookUp.waiting := fun hmem => hj (List.mem_cons_of_mem _ hmem)
      rw [h.lookUp.waiting_iff j q hq]
      simp [hnot]
  · intro j q hq
    rcases moved_eq_some hq with ⟨-, rfl, -⟩ | ⟨hj, hq⟩
    · simp
    · have hholder := (h.lookUp.holder_iff i _ hi).1 rfl
      have hij : ¬i = j := fun heq => hj (by simp [heq])
      rw [h.lookUp.holder_iff j q hq, hholder]
      simp [hij]
  · intro j _ q hq
    rcases h.absent hnone j q hq with rfl | rfl | rfl <;> exact ⟨nofun, nofun⟩

/-- A look-up has failed: the next caller may try. -/
lemma Orderly.lookUpFailed (h : slot.Orderly f) (hi : f i = some .lookUp) :
    ({ slot with lookUp := slot.lookUp.leave } : Slot).Orderly
      (moved [i] .outside (moved (slot.lookUp.waiting.take 1) .lookUp f)) := by
  have hnone := h.balancer_eq_none hi
  have hplaces : ∀ j q, moved (slot.lookUp.waiting.take 1) .lookUp f j = some q →
      q = .outside ∨ q = .lookUpLine ∨ q = .lookUp := by
    intro j q hq
    rcases moved_eq_some hq with ⟨-, rfl, -⟩ | ⟨-, hq⟩
    · exact .inr (.inr rfl)
    · exact h.absent hnone j q hq
  have hlock : slot.lock.Serves (moved (slot.lookUp.waiting.take 1) .lookUp f)
      .lockLine .lock := by
    refine h.lock.others ?_ ⟨nofun, nofun⟩
    intro j _ q hq
    rcases h.absent hnone j q hq with rfl | rfl | rfl <;> exact ⟨nofun, nofun⟩
  refine ⟨h.lookUp.leave nofun hi ⟨nofun, nofun⟩, hlock.others ?_ ⟨nofun, nofun⟩, ?_, ?_⟩
  · intro j _ q hq
    rcases hplaces j q hq with rfl | rfl | rfl <;> exact ⟨nofun, nofun⟩
  · intro hsome
    rw [hnone] at hsome
    cases hsome
  · intro _ j q hq
    rcases moved_eq_some hq with ⟨-, rfl, -⟩ | ⟨-, hq⟩
    · exact .inl rfl
    · exact hplaces j q hq

lemma Orderly.joinLock (h : slot.Orderly f) (hi : f i = some .hall) :
    ({ slot with lock := slot.lock.join i } : Slot).Orderly
      (moved [i] (if slot.lock.isFree then .lock else .lockLine) f) := by
  have hsome := h.balancer_isSome hi (.inl rfl)
  refine ⟨h.lookUp.others ?_ ?_, h.lock.join nofun hi ⟨nofun, nofun⟩, h.found, ?_⟩
  · intro j hj q hq
    rw [List.mem_singleton.1 hj, hi] at hq
    cases hq
    exact ⟨nofun, nofun⟩
  · split <;> exact ⟨nofun, nofun⟩
  · intro hnone
    rw [hnone] at hsome
    cases hsome

lemma Orderly.workEnded (h : slot.Orderly f) (hi : f i = some .lock) {balancer : Option Balancer}
    (hb : balancer.isSome) :
    ({ slot with balancer, lock := slot.lock.leave } : Slot).Orderly
      (moved [i] .outside (moved (slot.lock.waiting.take 1) .lock f)) := by
  have hsome := h.balancer_isSome hi (.inr (.inr rfl))
  have hlookUp := h.lookUp
  rw [h.found hsome] at hlookUp
  -- nobody is left at the look-up of a balancer that has been found
  have hnobody : ∀ j q, f j = some q → q ≠ .lookUpLine ∧ q ≠ .lookUp := by
    intro j q hq
    constructor
    · intro heq
      cases (hlookUp.waiting_iff j q hq).1 heq
    · intro heq
      cases (hlookUp.holder_iff j q hq).1 heq
  have hmoved : slot.lookUp.Serves (moved (slot.lock.waiting.take 1) .lock f)
      .lookUpLine .lookUp :=
    h.lookUp.others (fun j _ q hq => hnobody j q hq) ⟨nofun, nofun⟩
  refine ⟨hmoved.others ?_ ⟨nofun, nofun⟩, h.lock.leave nofun hi ⟨nofun, nofun⟩,
    fun _ => h.found hsome, ?_⟩
  · intro j _ q hq
    rcases moved_eq_some hq with ⟨-, rfl, -⟩ | ⟨-, hq⟩
    · exact ⟨nofun, nofun⟩
    · exact hnobody j q hq
  · intro hnone
    change balancer = none at hnone
    rw [hnone] at hb
    cases hb

end Slot

end ApiBalancer
