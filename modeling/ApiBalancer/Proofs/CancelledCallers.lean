import ApiBalancer.Proofs.Crowd

/-!
# Cancelled callers

A cancellation ends every request of a balancer's tasks, also one that gets no answer. It does not
take a caller out of a line: who waits for another's look-up or for the lock cannot return before
others have gone on (`Traffic.cancelled_returns_or_waits`).
-/

namespace ApiBalancer

/-- Whether an error is what a cancelled request ends with. -/
def IsCancellation (ifCancelled : Option BalancerError) : Prop :=
  ∃ step cluster, ifCancelled = some (.cancelled step cluster)

namespace Procedure

variable {α β : Type} {proc : Procedure BalancerError α}

/-- Whether each request of a procedure can be cancelled. -/
def Cancellable : Procedure BalancerError α → Prop
  | done _ => True
  | report _ rest => rest.Cancellable
  | call _ ifCancelled next => IsCancellation ifCancelled ∧ ∀ x, (next x).Cancellable

lemma Cancellable.bind (h : proc.Cancellable) {f : α → Procedure BalancerError β}
    (hf : ∀ a, (f a).Cancellable) : (proc.bind f).Cancellable := by
  induction proc with
  | done result =>
    cases result with
    | ok a => exact hf a
    | error e => exact trivial
  | report event rest ih => exact ih h
  | call request ifCancelled next ih => exact ⟨h.1, fun x => ih x (h.2 x)⟩

lemma cancellable_under (step : Step) (cluster : String) (wrap : EngineError → BalancerError)
    (proc : Procedure EngineError α) : (proc.under (.cancelled step cluster) wrap).Cancellable := by
  induction proc with
  | done result => cases result <;> exact trivial
  | report event rest ih => exact ih
  | call request ifCancelled next ih => exact ⟨⟨step, cluster, rfl⟩, ih⟩

lemma cancellable_step (step : Step) (cluster container : String) (work : Procedure EngineError α) :
    (Balancer.step step cluster container work).Cancellable := cancellable_under _ _ _ _

lemma cancellable_tellAll (events : List Event) :
    (tellAll events : Procedure BalancerError Unit).Cancellable := by
  induction events with
  | nil => exact trivial
  | cons event rest ih => exact ih

lemma Cancellable.onward {σ : Type} {engine : Engine σ} {fired : Bool} {p p' : Progress σ}
    {pace : Pace} {rest : Procedure BalancerError α} (h : proc.Cancellable)
    (hadvance : proc.advance engine fired p pace = (p', .onward rest)) : rest.Cancellable := by
  cases pace with
  | whole => cases hadvance
  | move =>
    cases proc with
    | done result => cases hadvance
    | report event tail =>
      cases hadvance
      exact h
    | call request ifCancelled next =>
      obtain ⟨⟨step, cluster, rfl⟩, hnext⟩ := h
      change Procedure.move engine fired (call request _ next) p = _ at hadvance
      unfold Procedure.move at hadvance
      cases fired with
      | true => cases hadvance
      | false =>
        dsimp only at hadvance
        split at hadvance
        · cases hadvance
          exact hnext _
        · cases hadvance

lemma Cancellable.run_blocked {σ : Type} {engine : Engine σ} {c : Cancellation}
    {p p' : Progress σ} {ifCancelled : Option BalancerError} (h : proc.Cancellable)
    (hrun : proc.run engine c p = (p', .blocked ifCancelled)) : IsCancellation ifCancelled := by
  induction proc generalizing p with
  | done result => cases hrun
  | report event rest ih => exact ih h hrun
  | call request whenCancelled next ih =>
    obtain ⟨⟨step, cluster, rfl⟩, hnext⟩ := h
    unfold Procedure.run at hrun
    split at hrun
    · cases hrun
    · dsimp only at hrun
      split at hrun
      · cases hrun
      · split at hrun
        · exact ih _ (hnext _) hrun
        · cases hrun
          exact ⟨step, cluster, rfl⟩

lemma Cancellable.blocked {σ : Type} {engine : Engine σ} {fired : Bool} {p p' : Progress σ}
    {pace : Pace} {ifCancelled : Option BalancerError} (h : proc.Cancellable)
    (hadvance : proc.advance engine fired p pace = (p', .ended (.blocked ifCancelled))) :
    IsCancellation ifCancelled := by
  cases pace with
  | whole =>
    obtain ⟨hp, hended⟩ := Prod.mk.inj hadvance
    exact h.run_blocked (Prod.ext hp (Advance.ended.inj hended))
  | move =>
    cases proc with
    | done result => cases hadvance
    | report event tail => cases hadvance
    | call request whenCancelled next =>
      obtain ⟨⟨step, cluster, rfl⟩, hnext⟩ := h
      change Procedure.move engine fired (call request _ next) p = _ at hadvance
      unfold Procedure.move at hadvance
      cases fired with
      | true => cases hadvance
      | false =>
        dsimp only at hadvance
        split at hadvance
        · cases hadvance
        · cases hadvance
          exact ⟨step, cluster, rfl⟩

/-- Once its cancellation has fired, a task that can be cancelled makes no request. -/
lemma Cancellable.made_of_fired {σ : Type} {engine : Engine σ} {p p' : Progress σ} {pace : Pace}
    {outcome : Advance BalancerError α} (h : proc.Cancellable)
    (hadvance : proc.advance engine true p pace = (p', outcome)) : p'.made = p.made := by
  cases pace with
  | move =>
    cases proc with
    | done result =>
      cases hadvance
      rfl
    | report event tail =>
      cases hadvance
      rfl
    | call request ifCancelled next =>
      obtain ⟨⟨step, cluster, rfl⟩, -⟩ := h
      cases hadvance
      rfl
  | whole =>
    have hrun : (proc.run engine (.before 0) p).1.made = p.made := by
      clear hadvance
      induction proc generalizing p with
      | done result => rfl
      | report event rest ih => exact ih h
      | call request ifCancelled next ih =>
        obtain ⟨⟨step, cluster, rfl⟩, -⟩ := h
        have hfired : (Cancellation.before 0).firedBefore p.made.length = true := by
          simp [Cancellation.firedBefore]
        unfold Procedure.run
        rw [if_pos hfired]
    cases hadvance
    exact hrun

/-- Once its cancellation has fired, a task that can be cancelled comes to an end. -/
lemma Cancellable.finishes {σ : Type} (h : proc.Cancellable) (engine : Engine σ)
    (p : Progress σ) :
    ∃ p' result, proc.advance engine true p .whole = (p', .ended (.finished result)) := by
  have hrun : ∃ p' result, proc.run engine (.before 0) p = (p', .finished result) := by
    induction proc generalizing p with
    | done result => exact ⟨p, result, rfl⟩
    | report event rest ih => exact ih h _
    | call request ifCancelled next ih =>
      obtain ⟨⟨step, cluster, rfl⟩, -⟩ := h
      refine ⟨p, .error (.cancelled step cluster), ?_⟩
      unfold Procedure.run
      exact if_pos (by simp [Cancellation.firedBefore])
  obtain ⟨p', result, hrun⟩ := hrun
  refine ⟨p', result, ?_⟩
  change ((proc.run engine (.before 0) p).1,
    Advance.ended (proc.run engine (.before 0) p).2) = _
  rw [hrun]

end Procedure

namespace Balancer

open Procedure

variable {plan : Plan} {b : Balancer}

lemma cancellable_lookUp (plan : Plan) (spec : ClusterSpec) : (lookUp plan spec).Cancellable := by
  unfold lookUp
  split
  · exact trivial
  · exact (cancellable_step _ _ _ _).bind fun _ => trivial

lemma cancellable_create (b : Balancer) : b.create.Cancellable := by
  unfold create
  split
  · exact trivial
  · exact (cancellable_step _ _ _ _).bind fun _ => trivial

lemma cancellable_attached (b : Balancer) : b.attached.Cancellable := by
  unfold attached
  split <;> exact trivial

lemma cancellable_document (plan : Plan) (b : Balancer) (backends : BackendSet) :
    (b.document plan backends).Cancellable := by
  unfold document
  split
  · exact (cancellable_tellAll _).bind fun _ => trivial
  · exact trivial

lemma cancellable_resolveEach (cluster : String) (port : UInt16) (nodes : List Container) :
    (Cluster.resolveEach cluster port nodes).Cancellable := by
  induction nodes with
  | nil => exact trivial
  | cons node rest ih =>
    refine (cancellable_under _ _ _ _).bind fun address => ?_
    split
    · exact trivial
    · exact ih.bind fun _ => trivial

lemma cancellable_resolve (cluster : String) (nodes : List Container) (port : UInt16) :
    (Cluster.resolve cluster nodes port).Cancellable :=
  (cancellable_resolveEach cluster port nodes).bind fun _ => trivial

lemma cancellable_update (plan : Plan) (b : Balancer) : (b.update plan).Cancellable := by
  refine b.cancellable_attached.bind fun container => ?_
  refine (cancellable_step _ _ _ _).bind fun nodes => ?_
  refine (cancellable_resolve _ _ _).bind fun backends => ?_
  refine (b.cancellable_document plan backends).bind fun document => ?_
  refine (cancellable_step _ _ _ _).bind fun _ => ?_
  exact (cancellable_step _ _ _ _).bind fun _ => trivial

lemma cancellable_address (b : Balancer) : b.address.Cancellable := by
  refine b.cancellable_attached.bind fun container => ?_
  refine (cancellable_step _ _ _ _).bind fun address => ?_
  split <;> exact trivial

lemma cancellable_delete (b : Balancer) : b.delete.Cancellable := by
  unfold delete
  split
  · exact trivial
  · exact (cancellable_step _ _ _ _).bind fun _ => trivial

/-- Each request of a balancer's tasks can be cancelled. -/
theorem cancellable_perform (plan : Plan) (b : Balancer) (task : Task) :
    (b.perform plan task).Cancellable := by
  cases task with
  | create => exact b.cancellable_create.bind fun _ => trivial
  | update => exact (b.cancellable_update plan).bind fun _ => trivial
  | address => exact b.cancellable_address.bind fun _ => trivial
  | delete => exact b.cancellable_delete.bind fun _ => trivial
  | status => exact trivial

end Balancer

/-- Whether what a caller in a phase is at can be cancelled. -/
def Phase.Cancellable : Phase → Prop
  | .looksUp _ work => work.Cancellable
  | .works _ work => work.Cancellable
  | .stuckInLookUp _ ifCancelled | .stuckInWork _ ifCancelled => IsCancellation ifCancelled
  | _ => True

namespace Line

variable {line : Line} {known : Nat → Prop} {i : Nat}

/-- Whether a line is one of known callers, where someone holds what others wait for. -/
structure Manned (line : Line) (known : Nat → Prop) : Prop where
  holder : ∀ i, line.holder = some i → known i
  waiting : ∀ i ∈ line.waiting, known i
  held : line.waiting ≠ [] → line.holder.isSome

lemma manned_empty (known : Nat → Prop) : ({} : Line).Manned known :=
  ⟨nofun, nofun, fun hne => (hne rfl).elim⟩

lemma Manned.join (h : line.Manned known) (hi : known i) : (line.join i).Manned known := by
  obtain ⟨holder, waiting⟩ := line
  cases holder with
  | none =>
    refine ⟨fun j hj => ?_, h.waiting, fun _ => rfl⟩
    cases hj
    exact hi
  | some other =>
    refine ⟨h.holder, fun j hj => ?_, fun _ => rfl⟩
    have hj : j ∈ waiting ∨ j = i := by simpa [Line.join] using hj
    rcases hj with hj | rfl
    · exact h.waiting j hj
    · exact hi

lemma Manned.leave (h : line.Manned known) : line.leave.Manned known := by
  obtain ⟨holder, waiting⟩ := line
  cases waiting with
  | nil => exact manned_empty known
  | cons next rest =>
    refine ⟨fun j hj => ?_, fun j hj => ?_, fun _ => rfl⟩
    · cases hj
      exact h.waiting next List.mem_cons_self
    · exact h.waiting j (List.mem_cons_of_mem _ hj)

end Line

namespace Traffic

variable {σ : Type} {t t' u : Traffic σ} {engine : Engine σ} {c d : Caller} {slot : Slot}
  {i n : Nat} {ids : List Nat} {phase : Phase}

/-- Whether a caller of a number has come. -/
def Has (t : Traffic σ) (i : Nat) : Prop := (t.caller? i).isSome

lemma has_moveTo (t : Traffic σ) (ids : List Nat) (phase : Phase) :
    (t.moveTo ids phase).Has = t.Has := by
  funext i
  unfold Has
  rw [caller?_moveTo, Option.isSome_map]

lemma has_cancel (t : Traffic σ) (i : Nat) : (t.cancel i).Has = t.Has := by
  funext j
  unfold Has
  rw [caller?_cancel, Option.isSome_map]

lemma has_goes (hgoes : t.Goes engine c t') : t'.Has = t.Has := by
  cases hgoes with
  | failsLookUp | leavesLookUp | finishesWork | leavesWork =>
    exact (has_moveTo _ _ _).trans (has_moveTo _ _ _)
  | _ => exact has_moveTo _ _ _

/-- Whether both lines of a slot are manned. -/
def MannedSlot (t : Traffic σ) (slot : Slot) : Prop :=
  slot.lookUp.Manned t.Has ∧ slot.lock.Manned t.Has

lemma mannedSlot_of_has (h : u.Has = t.Has) (hslot : t.MannedSlot slot) : u.MannedSlot slot := by
  unfold MannedSlot
  rw [h]
  exact hslot

/-- What holds of traffic in which every wait has a cause: lines are manned, and what callers are at
can be cancelled. -/
structure Attended (t : Traffic σ) : Prop where
  regular : t.Regular
  manned : ∀ slot ∈ t.slots, t.MannedSlot slot
  cancellable : ∀ i d, t.caller? i = some d → d.phase.Cancellable

lemma Attended.mannedAt (h : t.Attended) (hslot : t.slots[n]? = some slot) : t.MannedSlot slot :=
  h.manned slot (List.mem_of_getElem? hslot)

/-- Changing a slot keeps the lines manned if it keeps those of the slot manned. -/
lemma Attended.changed (h : t.Attended) (n : Nat) {f : Slot → Slot}
    (hf : ∀ slot, t.slots[n]? = some slot → t.MannedSlot (f slot)) :
    ∀ slot ∈ (t.changeSlot n f).slots, t.MannedSlot slot := by
  intro slot hmem
  obtain ⟨m, hm⟩ := List.mem_iff_getElem?.1 hmem
  by_cases hmn : m = n
  · subst hmn
    change (t.slots.modify m f)[m]? = some slot at hm
    rw [List.getElem?_modify_eq] at hm
    obtain ⟨slot₀, hslot₀, rfl⟩ := Option.map_eq_some_iff.1 hm
    exact hf slot₀ hslot₀
  · rw [getElem?_changeSlot_of_ne hmn] at hm
    exact h.mannedAt hm

lemma Attended.manned_goes (h : t.Attended) (hc : t.caller? c.id = some c)
    (hgoes : t.Goes engine c t') : ∀ slot ∈ t'.slots, t.MannedSlot slot := by
  have hhas : t.Has c.id := by
    unfold Has
    rw [hc]
    rfl
  cases hgoes with
  | misses | finds | passes | beginsLookUp | looksOn | sticksInLookUp | worksOn | sticksInWork =>
    exact h.manned
  | opens =>
    intro slot hslot
    change slot ∈ t.slots ++ [({} : Slot)] at hslot
    rcases List.mem_append.1 hslot with hslot | hslot
    · exact h.manned slot hslot
    · rw [List.mem_singleton.1 hslot]
      exact ⟨Line.manned_empty _, Line.manned_empty _⟩
  | asks n slot hphase hslot =>
    refine h.changed n fun slot₀ hslot₀ => ?_
    exact ⟨(h.mannedAt hslot₀).1.join hhas, (h.mannedAt hslot₀).2⟩
  | queues n slot hphase hslot =>
    refine h.changed n fun slot₀ hslot₀ => ?_
    exact ⟨(h.mannedAt hslot₀).1, (h.mannedAt hslot₀).2.join hhas⟩
  | beginsWork n slot b hphase hslot =>
    refine h.changed n fun slot₀ hslot₀ => ?_
    exact ⟨(h.mannedAt hslot₀).1, (h.mannedAt hslot₀).2⟩
  | finishesLookUp n slot work pace p b hphase hslot =>
    refine h.changed n fun slot₀ hslot₀ => ?_
    exact ⟨Line.manned_empty _, (h.mannedAt hslot₀).2⟩
  | failsLookUp n slot _ _ _ _ hphase hslot | leavesLookUp n slot _ hphase hslot =>
    refine h.changed n fun slot₀ hslot₀ => ?_
    exact ⟨(h.mannedAt hslot).1.leave, (h.mannedAt hslot₀).2⟩
  | finishesWork n slot _ _ _ _ hphase hslot | leavesWork n slot _ hphase hslot =>
    refine h.changed n fun slot₀ hslot₀ => ?_
    exact ⟨(h.mannedAt hslot₀).1, (h.mannedAt hslot).2.leave⟩

/-- Callers who move to a phase that can be cancelled. -/
lemma cancellable_moveTo (h : ∀ i d, t.caller? i = some d → d.phase.Cancellable)
    (hphase : phase.Cancellable) :
    ∀ i d, (t.moveTo ids phase).caller? i = some d → d.phase.Cancellable := by
  intro i d hd
  rw [caller?_moveTo] at hd
  obtain ⟨d₀, hd₀, rfl⟩ := Option.map_eq_some_iff.1 hd
  split
  · exact hphase
  · exact h i d₀ hd₀

lemma Attended.cancellable_goes (h : t.Attended) (hc : t.caller? c.id = some c)
    (hgoes : t.Goes engine c t') : ∀ i d, t'.caller? i = some d → d.phase.Cancellable := by
  have hown := h.cancellable c.id c hc
  have hall := h.cancellable
  cases hgoes with
  | misses | finds | opens | passes => exact cancellable_moveTo hall trivial
  | asks | queues =>
    refine cancellable_moveTo hall ?_
    split <;> exact trivial
  | beginsLookUp n slot hphase => exact cancellable_moveTo hall (Balancer.cancellable_lookUp _ _)
  | beginsWork n slot b hphase =>
    exact cancellable_moveTo hall (Balancer.cancellable_perform _ _ _)
  | looksOn n slot work rest pace p hphase hslot hadvance
  | worksOn n slot work rest pace p hphase hslot hadvance =>
    rw [hphase] at hown
    exact cancellable_moveTo hall (Procedure.Cancellable.onward hown hadvance)
  | sticksInLookUp n slot work pace p ifCancelled hphase hslot hadvance
  | sticksInWork n slot work pace p ifCancelled hphase hslot hadvance =>
    rw [hphase] at hown
    exact cancellable_moveTo hall (Procedure.Cancellable.blocked hown hadvance)
  | finishesLookUp => exact cancellable_moveTo hall trivial
  | failsLookUp | leavesLookUp | finishesWork | leavesWork =>
    exact cancellable_moveTo (cancellable_moveTo hall trivial) trivial

lemma Attended.goes (h : t.Attended) (hc : t.caller? c.id = some c)
    (hgoes : t.Goes engine c t') : t'.Attended := by
  refine ⟨h.regular.goes hc hgoes, fun slot hslot => ?_, h.cancellable_goes hc hgoes⟩
  exact mannedSlot_of_has (has_goes hgoes) (h.manned_goes hc hgoes slot hslot)

lemma attended_crowd (fleet : Fleet) (s : σ) (wanted : List (ClusterSpec × Balancer.Task)) :
    (crowd fleet s wanted).Attended := by
  refine ⟨regular_crowd fleet s wanted, fun slot hslot => ?_, fun i d hd => ?_⟩
  · obtain ⟨balancer, -, rfl⟩ := List.mem_map.1 hslot
    exact ⟨Line.manned_empty _, Line.manned_empty _⟩
  · rw [of_caller?_crowd hd]
    exact trivial

theorem Passes.attended {start : Traffic σ} {forgotten : List String}
    (h : start.Passes engine forgotten t) (hstart : start.Attended) : t.Attended := by
  induction h with
  | start => exact hstart
  | step pace i woken run goes ih =>
    obtain ⟨c, hc, hgoes⟩ := goes_of_step goes
    obtain rfl := id_of_caller? hc
    exact ih.goes hc hgoes
  | cancel i run ih =>
    refine ⟨ih.regular.cancel i, fun slot hslot => ?_, fun j d hd => ?_⟩
    · exact mannedSlot_of_has (has_cancel _ i) (ih.manned slot hslot)
    · obtain ⟨d₀, hd₀, rfl⟩ := of_caller?_cancel hd
      exact ih.cancellable j d₀ hd₀
  | forget cluster run ih => exact ⟨ih.regular.forget cluster, ih.manned, ih.cancellable⟩

/-! ### Steps of one's own -/

/-- What traffic can come to if one caller alone goes on. -/
inductive Alone (engine : Engine σ) (i : Nat) (start : Traffic σ) : Traffic σ → Prop
  | start : Alone engine i start start
  | step {t t' : Traffic σ} (pace : Pace) (woken : List Nat) (run : Alone engine i start t)
    (goes : t.step pace engine i = some (t', woken)) : Alone engine i start t'

lemma Alone.after (h : u.Alone engine i t') {pace : Pace} {woken : List Nat}
    (hstep : t.step pace engine i = some (u, woken)) : t.Alone engine i t' := by
  induction h with
  | start => exact .step pace woken .start hstep
  | step pace' woken' run goes ih => exact .step pace' woken' ih goes

lemma Alone.passes {start : Traffic σ} {forgotten : List String} (h : t.Alone engine i u)
    (ht : start.Passes engine forgotten t) : start.Passes engine forgotten u := by
  induction h with
  | start => exact ht
  | step pace woken run goes ih => exact ih.step pace i woken goes

lemma caller?_moveTo_of_mem (hc : t.caller? i = some c) (hi : i ∈ ids) (phase : Phase) :
    (t.moveTo ids phase).caller? i = some { c with phase } := by
  rw [caller?_moveTo, hc, Option.map_some, if_pos hi]

/-- The step of a caller who has a slot. -/
lemma step_of_slot (hc : t.caller? i = some c) (hn : c.phase.slot? = some n) (pace : Pace) :
    t.step pace engine i = t.slots[n]?.bind fun slot => t.stepAt pace engine c n slot := by
  unfold step
  rw [hc]
  dsimp only
  cases hphase : c.phase with
  | arrived | missed | returned =>
    rw [hphase] at hn
    cases hn
  | _ =>
    rw [hphase] at hn
    cases hn
    dsimp only [Phase.slot?]
    cases t.slots[n]? <;> rfl

/-- Those who wait in a line have no step. -/
lemma step_of_line (hc : t.caller? i = some c)
    (hline : c.phase.place = .lookUpLine ∨ c.phase.place = .lockLine) (pace : Pace) :
    t.step pace engine i = none := by
  have hwaits : ∃ n, c.phase = .waitsForLookUp n ∨ c.phase = .waitsForLock n := by
    cases hphase : c.phase with
    | waitsForLookUp n => exact ⟨n, .inl rfl⟩
    | waitsForLock n => exact ⟨n, .inr rfl⟩
    | _ =>
      rw [hphase] at hline
      rcases hline with hline | hline <;> cases hline
  obtain ⟨n, hphase⟩ := hwaits
  have hn : c.phase.slot? = some n := by
    rcases hphase with hphase | hphase <;> rw [hphase] <;> rfl
  rw [step_of_slot hc hn]
  refine Option.bind_eq_none_iff.2 fun slot _ => ?_
  unfold stepAt
  rcases hphase with hphase | hphase <;> rw [hphase]

lemma step_of_returned (hc : t.caller? i = some c) (hresult : c.phase.result?.isSome)
    (pace : Pace) : t.step pace engine i = none := by
  cases hphase : c.phase with
  | returned =>
    unfold step
    rw [hc]
    dsimp only
    rw [hphase]
    rfl
  | _ =>
    rw [hphase] at hresult
    cases hresult

/-- Whether a caller whose cancellation has fired goes on to a phase from which there is less to
go. -/
def GoesOn (engine : Engine σ) (t : Traffic σ) (i : Nat) (toGo : Nat) : Prop :=
  ∃ u woken d, t.step .whole engine i = some (u, woken) ∧ u.caller? i = some d ∧
    d.cancelled = true ∧ d.phase.toGo < toGo

lemma goesOn_moveTo (hc : u.caller? c.id = some c) (hcancelled : c.cancelled = true)
    {woken : List Nat} (hi : c.id ∈ ids) {toGo : Nat} (htoGo : phase.toGo < toGo)
    (hstep : t.step .whole engine c.id = some (u.moveTo ids phase, woken)) :
    t.GoesOn engine c.id toGo :=
  ⟨_, woken, _, hstep, caller?_moveTo_of_mem hc hi phase, hcancelled, htoGo⟩

lemma goesOn_handOver (hc : u.caller? c.id = some c) (hcancelled : c.cancelled = true)
    {woken : List Nat} {start : Phase} {result : Except BalancerError Balancer.Answer} {toGo : Nat}
    (htoGo : 0 < toGo)
    (hstep : t.step .whole engine c.id =
      some ((u.moveTo ids start).moveTo [c.id] (.returned result), woken)) :
    t.GoesOn engine c.id toGo := by
  obtain ⟨d, hd, hdc⟩ : ∃ d, (u.moveTo ids start).caller? c.id = some d ∧ d.cancelled = true := by
    rw [caller?_moveTo, hc]
    refine ⟨_, rfl, ?_⟩
    split <;> exact hcancelled
  exact ⟨_, woken, _, hstep, caller?_moveTo_of_mem hd List.mem_cons_self _, hdc, htoGo⟩

lemma goesOn_found (hc : t.caller? c.id = some c) (hcancelled : c.cancelled = true)
    (hphase : c.phase = .arrived ∨ c.phase = .missed)
    (htable : t.table.get? c.spec.name = some n) : t.GoesOn engine c.id c.phase.toGo := by
  have hstep : t.step .whole engine c.id = some (t.moveTo [c.id] (.atSlot n), []) := by
    unfold step
    rw [hc]
    dsimp only
    rcases hphase with hphase | hphase <;> rw [hphase, htable]
  refine goesOn_moveTo hc hcancelled List.mem_cons_self ?_ hstep
  rcases hphase with hphase | hphase <;> rw [hphase] <;> simp [Phase.toGo]

lemma goesOn_notFound (hc : t.caller? c.id = some c) (hcancelled : c.cancelled = true)
    (hphase : c.phase = .arrived ∨ c.phase = .missed)
    (htable : t.table.get? c.spec.name = none) : t.GoesOn engine c.id c.phase.toGo := by
  rcases hphase with hphase | hphase
  · have hstep : t.step .whole engine c.id = some (t.moveTo [c.id] .missed, []) := by
      unfold step
      rw [hc]
      dsimp only
      rw [hphase, htable]
    refine goesOn_moveTo hc hcancelled List.mem_cons_self ?_ hstep
    rw [hphase]
    simp [Phase.toGo]
  · let u : Traffic σ := { t with
      table := t.table.insert c.spec.name t.slots.length
      slots := t.slots ++ [({} : Slot)] }
    have hstep : t.step .whole engine c.id =
        some (u.moveTo [c.id] (.atSlot t.slots.length), []) := by
      unfold step
      rw [hc]
      dsimp only
      rw [hphase, htable]
    refine goesOn_moveTo (u := u) hc hcancelled List.mem_cons_self ?_ hstep
    rw [hphase]
    simp [Phase.toGo]

lemma goesOn_arriving (hc : t.caller? c.id = some c) (hcancelled : c.cancelled = true)
    (hresult : c.phase.result? = none) (hn : c.phase.slot? = none) :
    t.GoesOn engine c.id c.phase.toGo := by
  have harriving : c.phase = .arrived ∨ c.phase = .missed := by
    cases hphase : c.phase with
    | arrived => exact .inl rfl
    | missed => exact .inr rfl
    | returned =>
      rw [hphase] at hresult
      cases hresult
    | _ =>
      rw [hphase] at hn
      cases hn
  cases htable : t.table.get? c.spec.name with
  | none => exact goesOn_notFound hc hcancelled harriving htable
  | some n => exact goesOn_found hc hcancelled harriving htable

lemma Attended.goesOn_slot (h : t.Attended) (hc : t.caller? c.id = some c)
    (hcancelled : c.cancelled = true) (hn : c.phase.slot? = some n)
    (hline : ¬(c.phase.place = .lookUpLine ∨ c.phase.place = .lockLine)) :
    t.GoesOn engine c.id c.phase.toGo := by
  have hself : c.id ∈ [c.id] := List.mem_cons_self
  have hlt := h.regular.held c.id c n hc hn
  obtain ⟨slot, hslot⟩ : ∃ slot, t.slots[n]? = some slot := ⟨_, List.getElem?_eq_getElem hlt⟩
  have hstep : t.step .whole engine c.id = t.stepAt .whole engine c n slot := by
    rw [step_of_slot hc hn, hslot, Option.bind_some]
  have horderly := h.regular.orderly n slot hslot
  have hcancellable := h.cancellable c.id c hc
  have hplace : t.placeAt n c.id = some c.phase.place := by
    rw [placeAt_of_caller? hc, Phase.placeAt_self hn]
  unfold stepAt at hstep
  cases hphase : c.phase with
  | arrived | missed | returned =>
    rw [hphase] at hn
    cases hn
  | waitsForLookUp | waitsForLock =>
    rw [hphase] at hline
    exact (hline (by simp [Phase.place])).elim
  | atSlot m =>
    rw [hphase] at hstep
    by_cases hbalancer : slot.balancer.isSome = true
    · dsimp only at hstep
      rw [if_pos hbalancer] at hstep
      exact goesOn_moveTo hc hcancelled hself (by simp [Phase.toGo]) hstep
    · dsimp only at hstep
      rw [if_neg hbalancer] at hstep
      refine goesOn_moveTo (u := t.changeSlot n _) hc hcancelled hself ?_ hstep
      split <;> simp [Phase.toGo]
  | startsLookUp m =>
    rw [hphase] at hstep
    exact goesOn_moveTo hc hcancelled hself (by simp [Phase.toGo]) hstep
  | looksUp m work =>
    -- the next request of the look-up is left out, and that ends it
    rw [hphase] at hstep hcancellable
    obtain ⟨p, result, hadvance⟩ :=
      Procedure.Cancellable.finishes hcancellable engine { engine := t.engine }
    dsimp only at hstep
    rw [hcancelled, hadvance] at hstep
    cases result with
    | ok b =>
      exact goesOn_moveTo (u := (t.progressed c.id p).changeSlot n _) hc hcancelled
        List.mem_cons_self (by simp [Phase.toGo]) hstep
    | error e =>
      exact goesOn_handOver (u := (t.progressed c.id p).changeSlot n _) hc hcancelled
        (by simp [Phase.toGo]) hstep
  | stuckInLookUp m ifCancelled =>
    rw [hphase] at hstep hcancellable
    obtain ⟨s, cluster, rfl⟩ := hcancellable
    dsimp only at hstep
    rw [if_pos hcancelled] at hstep
    exact goesOn_handOver (u := t.changeSlot n _) hc hcancelled (by simp [Phase.toGo]) hstep
  | atLock m =>
    rw [hphase] at hstep
    refine goesOn_moveTo (u := t.changeSlot n _) hc hcancelled hself ?_ hstep
    split <;> simp [Phase.toGo]
  | startsWork m =>
    -- nobody has the lock before the look-up has yielded a balancer
    rw [hphase] at hstep hplace
    have hsome := horderly.balancer_isSome hplace (.inr (.inr rfl))
    obtain ⟨b, hb⟩ := Option.isSome_iff_exists.1 hsome
    dsimp only at hstep
    rw [hb] at hstep
    exact goesOn_moveTo (u := t.changeSlot n _) hc hcancelled hself (by simp [Phase.toGo]) hstep
  | works m work =>
    rw [hphase] at hstep hcancellable
    obtain ⟨p, result, hadvance⟩ :=
      Procedure.Cancellable.finishes hcancellable engine { engine := t.engine }
    dsimp only at hstep
    rw [hcancelled, hadvance] at hstep
    exact goesOn_handOver (u := (t.progressed c.id p).changeSlot n _) hc hcancelled
      (by simp [Phase.toGo]) hstep
  | stuckInWork m ifCancelled =>
    rw [hphase] at hstep hcancellable
    obtain ⟨s, cluster, rfl⟩ := hcancellable
    dsimp only at hstep
    rw [if_pos hcancelled] at hstep
    exact goesOn_handOver (u := t.changeSlot n _) hc hcancelled (by simp [Phase.toGo]) hstep

/-- A caller whose cancellation has fired goes on unless it waits in a line or has returned. -/
lemma Attended.goesOn (h : t.Attended) (hc : t.caller? c.id = some c)
    (hcancelled : c.cancelled = true) (hresult : c.phase.result? = none)
    (hline : ¬(c.phase.place = .lookUpLine ∨ c.phase.place = .lockLine)) :
    t.GoesOn engine c.id c.phase.toGo := by
  cases hn : c.phase.slot? with
  | none => exact goesOn_arriving hc hcancelled hresult hn
  | some n => exact h.goesOn_slot hc hcancelled hn hline

/-- A caller whose cancellation has fired comes on its own to an end or into a line. -/
lemma Attended.alone {k : Nat} (h : t.Attended) (hc : t.caller? i = some c)
    (hcancelled : c.cancelled = true) (htoGo : c.phase.toGo ≤ k) :
    ∃ u d, t.Alone engine i u ∧ u.caller? i = some d ∧ d.phase.toGo ≤ c.phase.toGo ∧
      (d.phase.result?.isSome ∨ d.phase.place = .lookUpLine ∨ d.phase.place = .lockLine) := by
  induction k generalizing t c with
  | zero =>
    have hreturned : c.phase.result?.isSome := by
      cases hphase : c.phase with
      | returned => rfl
      | _ =>
        rw [hphase] at htoGo
        exact absurd htoGo (by simp [Phase.toGo])
    exact ⟨t, c, .start, hc, Nat.le_refl _, .inl hreturned⟩
  | succ k ih =>
    by_cases hdone : c.phase.result?.isSome ∨
        c.phase.place = .lookUpLine ∨ c.phase.place = .lockLine
    · exact ⟨t, c, .start, hc, Nat.le_refl _, hdone⟩
    · obtain ⟨hresult, hline⟩ := not_or.1 hdone
      obtain rfl := id_of_caller? hc
      have hgoesOn : t.GoesOn engine c.id c.phase.toGo :=
        h.goesOn hc hcancelled (by simpa using hresult) hline
      obtain ⟨u, woken, d, hstep, hd, hdc, hless⟩ := hgoesOn
      obtain ⟨c', hc', hgoes⟩ := goes_of_step hstep
      cases hc.symm.trans hc'
      obtain ⟨v, e, halone, he, hle, hend⟩ := ih (h.goes hc hgoes) hd hdc (by omega)
      exact ⟨v, e, halone.after hstep, he, by omega, hend⟩

/-- A caller whose cancellation has fired makes no request. -/
lemma Attended.made_of_goes (h : t.Attended) (hc : t.caller? c.id = some c)
    (hcancelled : c.cancelled = true) (hgoes : t.Goes engine c t') : t'.made = t.made := by
  have hcancellable := h.cancellable c.id c hc
  have hnothing : ∀ p : Progress σ, p.made = [] → (t.progressed c.id p).made = t.made := by
    intro p hp
    change t.made ++ p.made.map (c.id, ·) = t.made
    rw [hp]
    exact List.append_nil _
  cases hgoes with
  | misses | finds | opens | passes | asks | beginsLookUp | leavesLookUp | queues | beginsWork
  | leavesWork => rfl
  | looksOn n _ work _ pace p hphase hslot hadvance
  | finishesLookUp n _ work pace p _ hphase hslot hadvance
  | failsLookUp n _ work pace p _ hphase hslot hadvance
  | sticksInLookUp n _ work pace p _ hphase hslot hadvance
  | worksOn n _ work _ pace p hphase hslot hadvance
  | finishesWork n _ work pace p _ hphase hslot hadvance
  | sticksInWork n _ work pace p _ hphase hslot hadvance =>
    rw [hphase] at hcancellable
    rw [hcancelled] at hadvance
    exact hnothing p (Procedure.Cancellable.made_of_fired hcancellable hadvance)

/-- Where one waits in a line, another has what the line is for. -/
lemma exists_holder {line : Line} {waits holds : Place} (hmanned : line.Manned t.Has)
    (hserves : line.Serves (t.placeAt n) waits holds) (hne : waits ≠ holds)
    (hholds : holds ≠ .outside) (hc : t.caller? i = some c) (hn : c.phase.slot? = some n)
    (hplace : c.phase.place = waits) :
    ∃ j d, j ≠ i ∧ t.caller? j = some d ∧ d.phase.slot? = c.phase.slot? ∧
      d.phase.place = holds := by
  have hhere : t.placeAt n i = some waits := by
    rw [placeAt_of_caller? hc, Phase.placeAt_self hn, hplace]
  have hwaiting := (hserves.waiting_iff i _ hhere).1 rfl
  obtain ⟨j, hj⟩ := Option.isSome_iff_exists.1 (hmanned.held (List.ne_nil_of_mem hwaiting))
  obtain ⟨d, hd⟩ := Option.isSome_iff_exists.1 (hmanned.holder j hj)
  have hthere := (hserves.holder_iff j _ (placeAt_of_caller? hd n)).2 hj
  obtain ⟨hslot, hd'⟩ := Phase.of_placeAt hthere hholds
  refine ⟨j, d, fun heq => ?_, hd, hslot.trans hn.symm, hd'⟩
  rw [heq] at hd
  cases hc.symm.trans hd
  exact hne (hplace.symm.trans hd')

lemma Attended.waits (h : t.Attended) (hc : t.caller? i = some c) {waits holds : Place}
    (hline : waits = .lookUpLine ∧ holds = .lookUp ∨ waits = .lockLine ∧ holds = .lock)
    (hplace : c.phase.place = waits) :
    ∃ j d, j ≠ i ∧ t.caller? j = some d ∧ d.phase.slot? = c.phase.slot? ∧
      d.phase.place = holds := by
  have hinside : c.phase.place ≠ .outside := by
    rw [hplace]
    rcases hline with ⟨rfl, -⟩ | ⟨rfl, -⟩ <;> exact nofun
  cases hn : c.phase.slot? with
  | none => exact (hinside (place_eq_outside hn)).elim
  | some n =>
    have hlt := h.regular.held i c n hc hn
    have hslot : t.slots[n]? = some t.slots[n] := List.getElem?_eq_getElem hlt
    have horderly := h.regular.orderly n _ hslot
    rw [← hn]
    rcases hline with ⟨rfl, rfl⟩ | ⟨rfl, rfl⟩
    · exact exists_holder (h.mannedAt hslot).1 horderly.lookUp nofun nofun hc hn hplace
    · exact exists_holder (h.mannedAt hslot).2 horderly.lock nofun nofun hc hn hplace

/-- A request that gets no answer is given up once the cancellation fires. -/
lemma Attended.step_of_stuck (h : t.Attended) (hc : t.caller? i = some c)
    (hcancelled : c.cancelled = true) {ifCancelled : Option BalancerError}
    (hphase : c.phase = .stuckInLookUp n ifCancelled ∨ c.phase = .stuckInWork n ifCancelled)
    (pace : Pace) :
    ∃ u woken step cluster, t.step pace engine i = some (u, woken) ∧
      u.result? i = some (.error (.cancelled step cluster)) := by
  obtain rfl := id_of_caller? hc
  have hn : c.phase.slot? = some n := by
    rcases hphase with hphase | hphase <;> rw [hphase] <;> rfl
  have hlt := h.regular.held c.id c n hc hn
  have hstep : t.step pace engine c.id = t.stepAt pace engine c n t.slots[n] := by
    rw [step_of_slot hc hn, List.getElem?_eq_getElem hlt, Option.bind_some]
  have hcancellable := h.cancellable c.id c hc
  have hhandOver : ∀ (u : Traffic σ) (next : List Nat) (start : Phase)
      (result : Except BalancerError Balancer.Answer), u.caller? = t.caller? →
      ((u.moveTo next start).moveTo [c.id] (.returned result)).result? c.id = some result := by
    intro u next start result hu
    unfold result?
    rw [caller?_moveTo, caller?_moveTo, hu, hc]
    simp [Phase.result?]
  unfold stepAt at hstep
  rcases hphase with hphase | hphase
  -- in either request the caller hands over what it has and returns
  all_goals
    rw [hphase] at hcancellable hstep
    obtain ⟨step, cluster, rfl⟩ := hcancellable
    dsimp only at hstep
    rw [if_pos hcancelled] at hstep
    exact ⟨_, _, step, cluster, hstep, hhandOver (t.changeSlot n _) _ _ _ rfl⟩

/-- A caller whose cancellation has fired makes no more requests, and comes on its own to an end or
into a line: for the look-up while another has it, or for the lock. Only there it cannot go on by
itself. A request that gets no answer does not keep it, and whoever has the lock returns. -/
theorem cancelled_returns_or_waits (engine : Engine σ) (fleet : Fleet) (s : σ)
    (wanted : List (ClusterSpec × Balancer.Task)) {forgotten : List String} {t : Traffic σ}
    (h : (crowd fleet s wanted).Passes engine forgotten t) {i : Nat} {c : Caller}
    (hc : t.caller? i = some c) (hcancelled : c.cancelled = true) :
    ((∀ pace, t.step pace engine i = none) ↔
      c.phase.result?.isSome ∨ c.phase.place = .lookUpLine ∨ c.phase.place = .lockLine) ∧
    (c.phase.place = .lookUpLine → ∃ j d, j ≠ i ∧ t.caller? j = some d ∧
      d.phase.slot? = c.phase.slot? ∧ d.phase.place = .lookUp) ∧
    (c.phase.place = .lockLine → ∃ j d, j ≠ i ∧ t.caller? j = some d ∧
      d.phase.slot? = c.phase.slot? ∧ d.phase.place = .lock) ∧
    (∀ pace u woken, t.step pace engine i = some (u, woken) → u.made = t.made) ∧
    (∀ n e, c.phase = .stuckInLookUp n e ∨ c.phase = .stuckInWork n e → ∀ pace,
      ∃ u woken step cluster, t.step pace engine i = some (u, woken) ∧
        u.result? i = some (.error (.cancelled step cluster))) ∧
    (c.phase.place = .lock → ∃ u, t.Alone engine i u ∧ (u.result? i).isSome) ∧
    ∃ u d, t.Alone engine i u ∧ u.caller? i = some d ∧
      (d.phase.result?.isSome ∨ d.phase.place = .lookUpLine ∨ d.phase.place = .lockLine) := by
  have hattended := h.attended (attended_crowd fleet s wanted)
  obtain rfl := id_of_caller? hc
  obtain ⟨u, d, halone, hd, htoGo, hend⟩ :=
    hattended.alone hc hcancelled (Nat.le_refl c.phase.toGo)
  refine ⟨⟨fun hnone => ?_, fun hend pace => ?_⟩, hattended.waits hc (.inl ⟨rfl, rfl⟩),
    hattended.waits hc (.inr ⟨rfl, rfl⟩), fun pace v woken hstep => ?_,
    fun n e hphase pace => hattended.step_of_stuck hc hcancelled hphase pace, fun hlock => ?_,
    u, d, halone, hd, hend⟩
  · by_contra hgo
    obtain ⟨hresult, hline⟩ := not_or.1 hgo
    have hgoesOn : t.GoesOn engine c.id c.phase.toGo :=
      hattended.goesOn hc hcancelled (by simpa using hresult) hline
    obtain ⟨v, woken, e, hstep, -⟩ := hgoesOn
    rw [hnone] at hstep
    cases hstep
  · rcases hend with hresult | hline
    · exact step_of_returned hc hresult pace
    · exact step_of_line hc hline pace
  · obtain ⟨c', hc', hgoes⟩ := goes_of_step hstep
    cases hc.symm.trans hc'
    exact hattended.made_of_goes hc hcancelled hgoes
  · -- behind the lock there is no line
    refine ⟨u, halone, ?_⟩
    rw [result?_of_caller? hd]
    have hle : d.phase.toGo ≤ 3 := Nat.le_trans htoGo (Phase.toGo_of_lock hlock)
    rcases hend with hresult | hline
    · exact hresult
    · cases hphase : d.phase with
      | returned => rfl
      | waitsForLookUp | waitsForLock =>
        rw [hphase] at hle
        exact absurd hle (by simp [Phase.toGo])
      | _ =>
        rw [hphase] at hline
        rcases hline with hline | hline <;> cases hline

/-- Whether a caller whose cancellation has fired has not returned and cannot go on by itself. -/
def Stranded (engine : Engine σ) (t : Traffic σ) (i : Nat) : Prop :=
  (∃ c, t.caller? i = some c ∧ c.cancelled = true) ∧ t.result? i = none ∧
    ∀ pace, t.step pace engine i = none

/-- A cancelled caller behind one whose request gets no answer is stranded, whether it waits for the
look-up or for the lock. -/
theorem cancelled_caller_stranded :
    (∃ t, (pair (({} : Inventory).stall .list) .status).Passes Inventory.engine [] t ∧
      t.Stranded Inventory.engine 1) ∧
    ∃ t, (pair (({} : Inventory).stall .create) .create).Passes Inventory.engine [] t ∧
      t.Stranded Inventory.engine 1 := by
  have hstranded : ∀ (u : Traffic Inventory) (place : Place),
      place = .lookUpLine ∨ place = .lockLine →
      (u.caller? 1).map (·.phase.place) = some place →
      (u.cancel 1).Stranded Inventory.engine 1 := by
    intro u place hline hplace
    obtain ⟨c, hc, rfl⟩ := Option.map_eq_some_iff.1 hplace
    have hcancelled : (u.cancel 1).caller? 1 = some { c with cancelled := true } := by
      rw [caller?_cancel, hc]
      rfl
    refine ⟨⟨_, hcancelled, rfl⟩, ?_, step_of_line hcancelled hline⟩
    rw [result?_of_caller? hcancelled]
    exact (Phase.idle_of_place hline).2
  constructor
  · have hrun : ((pair (({} : Inventory).stall .list) .status).drive Inventory.engine
        [0, 0, 0, 0, 0, 1, 1]).map (fun u => (u.caller? 1).map (·.phase.place)) =
        some (some .lookUpLine) := by
      decide +kernel
    obtain ⟨u, hu, hplace⟩ := Option.map_eq_some_iff.1 hrun
    exact ⟨_, (Passes.start.drive hu).cancel 1, hstranded u _ (.inl rfl) hplace⟩
  · have hrun : ((pair (({} : Inventory).stall .create) .create).drive Inventory.engine
        (List.replicate 12 0 ++ [1, 1, 1])).map (fun u => (u.caller? 1).map (·.phase.place)) =
        some (some .lockLine) := by
      decide +kernel
    obtain ⟨u, hu, hplace⟩ := Option.map_eq_some_iff.1 hrun
    exact ⟨_, (Passes.start.drive hu).cancel 1, hstranded u _ (.inr rfl) hplace⟩

/-- A caller whose own request gets no answer returns once its cancellation fires. -/
theorem stuck_caller_returns :
    ∃ t u woken step cluster,
      (pair (({} : Inventory).stall .list) .status).Passes Inventory.engine [] t ∧
      t.step .move Inventory.engine 0 = some (u, woken) ∧
      u.result? 0 = some (.error (.cancelled step cluster)) := by
  have hrun : ((pair (({} : Inventory).stall .list) .status).drive Inventory.engine
      [0, 0, 0, 0, 0]).map (fun u => (u.caller? 0).map (·.phase.toGo)) = some (some 6) := by
    decide +kernel
  obtain ⟨v, hv, htoGo⟩ := Option.map_eq_some_iff.1 hrun
  obtain ⟨c, hc, htoGo⟩ := Option.map_eq_some_iff.1 htoGo
  have hstuck : ∃ n e, c.phase = .stuckInLookUp n e := by
    cases hphase : c.phase with
    | stuckInLookUp n e => exact ⟨n, e, rfl⟩
    | _ =>
      rw [hphase] at htoGo
      simp [Phase.toGo] at htoGo
  obtain ⟨n, e, hphase⟩ := hstuck
  have hcancelled : (v.cancel 0).caller? 0 = some { c with cancelled := true } := by
    rw [caller?_cancel, hc]
    rfl
  have hpasses := (Passes.start.drive hv).cancel 0
  obtain ⟨-, -, -, -, hgivenUp, -⟩ :=
    cancelled_returns_or_waits Inventory.engine {} (({} : Inventory).stall .list) _ hpasses
      hcancelled rfl
  obtain ⟨u, woken, step, cluster, hstep, hresult⟩ := hgivenUp n e (.inl hphase) .move
  exact ⟨_, u, woken, step, cluster, hpasses, hstep, hresult⟩

end Traffic

end ApiBalancer
