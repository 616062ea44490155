import ApiBalancer.Proofs.Transcript

/-!
# Runs in pieces

A procedure that is carried forward in pieces, with other things happening in between, comes to the
same as if it is run in one go under a cancellation that fires at the same point. `outcome` is what
others see of a run: the engine, the requests and the end. `Pending` says that what is left of a
procedure comes to what the whole procedure comes to.
-/

namespace ApiBalancer

variable {σ ε α β : Type}

namespace Cancellation

/-- Whether the cancellation lets `m` requests through that are all answered. -/
def QuietUpTo (m : Nat) (c : Cancellation) : Prop :=
  ∀ n < m, c.firedBefore n = false ∧ c.firesDuring n false = false

lemma QuietUpTo.mono {m m' : Nat} {c : Cancellation} (h : c.QuietUpTo m') (hm : m ≤ m') :
    c.QuietUpTo m :=
  fun n hn => h n (by omega)

lemma quiet_never (m : Nat) : never.QuietUpTo m := fun _ _ => ⟨rfl, rfl⟩

lemma quiet_before (m : Nat) : (before m).QuietUpTo m := by
  intro n hn
  refine ⟨?_, rfl⟩
  simp only [firedBefore, decide_eq_false_iff_not]
  omega

/-- The cancellation that lets `m` more requests through first. -/
def delayed (m : Nat) : Cancellation → Cancellation
  | never => never
  | before k => before (m + k)
  | during k => during (m + k)
  | whenBlocked => whenBlocked

lemma firedBefore_delayed (m n : Nat) (c : Cancellation) :
    (c.delayed m).firedBefore (m + n) = c.firedBefore n := by
  cases c with
  | before k => simp [delayed, firedBefore]
  | during k => simp [delayed, firedBefore]
  | never | whenBlocked => rfl

lemma firesDuring_delayed (m n : Nat) (blocked : Bool) (c : Cancellation) :
    (c.delayed m).firesDuring (m + n) blocked = c.firesDuring n blocked := by
  cases c with
  | during k => simp [delayed, firesDuring]
  | never | before k | whenBlocked => rfl

lemma quiet_delayed (m : Nat) (c : Cancellation) : (c.delayed m).QuietUpTo m := by
  intro n hn
  cases c with
  | never | whenBlocked => exact ⟨rfl, rfl⟩
  | before k =>
    simp only [delayed, firedBefore, firesDuring, decide_eq_false_iff_not, and_true]
    omega
  | during k =>
    simp only [delayed, firedBefore, firesDuring, decide_eq_false_iff_not, beq_eq_false_iff_ne]
    omega

/-- The cancellation that has fired after the given number of requests, or never. -/
def ofFired : Option Nat → Cancellation
  | none => never
  | some k => before k

end Cancellation

namespace Procedure

/-- What others see of a run that starts with some requests made: the engine afterwards, all
requests, and the end. -/
def outcome (engine : Engine σ) (c : Cancellation) (proc : Procedure ε α) (s : σ)
    (made : List Request) : σ × List Request × Ending ε α :=
  let run := proc.run engine c { engine := s, made }
  (run.1.engine, run.1.made, run.2)

variable {engine : Engine σ} {c c' : Cancellation}

/-- The events of a run so far make no difference to others. -/
lemma outcome_of_progress (engine : Engine σ) (c : Cancellation) (proc : Procedure ε α)
    (p : Progress σ) :
    ((proc.run engine c p).1.engine, (proc.run engine c p).1.made, (proc.run engine c p).2) =
      proc.outcome engine c p.engine p.made := by
  unfold outcome
  obtain ⟨s, made, events⟩ := p
  dsimp only
  suffices h : ∀ (proc : Procedure ε α) (p q : Progress σ), p.engine = q.engine → p.made = q.made →
      ((proc.run engine c p).1.engine, (proc.run engine c p).1.made, (proc.run engine c p).2) =
        ((proc.run engine c q).1.engine, (proc.run engine c q).1.made, (proc.run engine c q).2) from
    h proc _ _ rfl rfl
  intro proc
  induction proc with
  | done result =>
    intro p q hengine hmade
    simp only [run, hengine, hmade]
  | report event rest ih =>
    intro p q hengine hmade
    exact ih _ _ hengine hmade
  | call request ifCancelled next ih =>
    intro p q hengine hmade
    have hafter : ∀ reply, (p.after request reply).made = (q.after request reply).made := by
      intro reply
      simp only [Progress.after, hmade]
    cases ifCancelled with
    | none =>
      simp only [run, hengine]
      split
      · exact ih _ _ _ rfl (hafter _)
      · simp only [hafter]
        rfl
    | some cancelled =>
      simp only [run, hengine, hmade]
      split
      · simp only [hengine, hmade]
      · split
        · simp only [hafter]
          rfl
        · split
          · exact ih _ _ _ rfl (hafter _)
          · simp only [hafter]
            rfl

@[simp] lemma outcome_done (result : Except ε α) (s : σ) (made : List Request) :
    (done result).outcome engine c s made = (s, made, .finished result) := rfl

@[simp] lemma outcome_report (event : Event) (rest : Procedure ε α) (s : σ) (made : List Request) :
    (report event rest).outcome engine c s made = rest.outcome engine c s made :=
  outcome_of_progress _ _ rest _

lemma outcome_call_none (request : Request)
    (next : Except EngineError request.Answer → Procedure ε α) (s : σ) (made : List Request) :
    (call request none next).outcome engine c s made =
      match (engine.serve request s).answer with
      | some x => (next x).outcome engine c (engine.serve request s).state (made ++ [request])
      | none => ((engine.serve request s).state, made ++ [request], .blocked none) := by
  unfold outcome
  simp only [run]
  cases (engine.serve request s).answer with
  | none => rfl
  | some x => exact outcome_of_progress _ _ _ _

lemma outcome_call_some (request : Request) (cancelled : ε)
    (next : Except EngineError request.Answer → Procedure ε α) (s : σ) (made : List Request) :
    (call request (some cancelled) next).outcome engine c s made =
      if c.firedBefore made.length = true then (s, made, .finished (.error cancelled))
      else if c.firesDuring made.length (engine.serve request s).answer.isNone = true then
        ((engine.serve request s).state, made ++ [request], .finished (.error cancelled))
      else
        match (engine.serve request s).answer with
        | some x => (next x).outcome engine c (engine.serve request s).state (made ++ [request])
        | none => ((engine.serve request s).state, made ++ [request], .blocked (some cancelled)) := by
  unfold outcome
  simp only [run]
  split
  · rfl
  · split
    · rfl
    · cases (engine.serve request s).answer with
      | none => rfl
      | some x => exact outcome_of_progress _ _ _ _

/-- Requests made before a procedure starts only shift the count by which its cancellation goes. -/
lemma outcome_shift (engine : Engine σ) (proc : Procedure ε α) (s : σ) (first made : List Request)
    (hbefore : ∀ n, c.firedBefore (first.length + n) = c'.firedBefore n)
    (hduring : ∀ n b, c.firesDuring (first.length + n) b = c'.firesDuring n b) :
    proc.outcome engine c s (first ++ made) =
      ((proc.outcome engine c' s made).1, first ++ (proc.outcome engine c' s made).2.1,
        (proc.outcome engine c' s made).2.2) := by
  induction proc generalizing s made with
  | done result => rfl
  | report event rest ih =>
    rw [outcome_report, outcome_report]
    exact ih s made
  | call request ifCancelled next ih =>
    cases ifCancelled with
    | none =>
      rw [outcome_call_none, outcome_call_none]
      cases (engine.serve request s).answer with
      | none => simp
      | some x =>
        rw [List.append_assoc]
        exact ih x _ _
    | some cancelled =>
      rw [outcome_call_some, outcome_call_some, List.length_append, hbefore, hduring]
      split
      · rfl
      · split
        · simp
        · cases (engine.serve request s).answer with
          | none => simp
          | some x =>
            rw [List.append_assoc]
            exact ih x _ _

/-- A run that is blocked would have ended if its cancellation had fired for that. -/
lemma outcome_whenBlocked {proc : Procedure ε α} {s s' : σ} {made made' : List Request}
    {cancelled : ε}
    (h : proc.outcome engine .never s made = (s', made', .blocked (some cancelled))) :
    proc.outcome engine .whenBlocked s made = (s', made', .finished (.error cancelled)) := by
  induction proc generalizing s made with
  | done result => cases h
  | report event rest ih =>
    rw [outcome_report] at h ⊢
    exact ih h
  | call request ifCancelled next ih =>
    cases ifCancelled with
    | none =>
      rw [outcome_call_none] at h ⊢
      cases hanswer : (engine.serve request s).answer with
      | none =>
        rw [hanswer] at h
        cases h
      | some x =>
        rw [hanswer] at h
        exact ih x h
    | some cancelled' =>
      rw [outcome_call_some] at h ⊢
      cases hanswer : (engine.serve request s).answer with
      | none =>
        rw [hanswer] at h
        cases h
        rfl
      | some x =>
        rw [hanswer] at h
        exact ih x h

/-- A cancellation that has fired does not let a procedure wait where it can be cancelled. -/
lemma outcome_before_ne_blocked {proc : Procedure ε α} {s s' : σ} {made made' : List Request}
    {k : Nat} {cancelled : ε} (hk : k ≤ made.length) :
    proc.outcome engine (.before k) s made ≠ (s', made', .blocked (some cancelled)) := by
  induction proc generalizing s made with
  | done result => simp
  | report event rest ih =>
    rw [outcome_report]
    exact ih hk
  | call request ifCancelled next ih =>
    cases ifCancelled with
    | none =>
      rw [outcome_call_none]
      cases (engine.serve request s).answer with
      | none => simp
      | some x => exact ih x (by simp; omega)
    | some cancelled' =>
      rw [outcome_call_some, if_pos (by simpa [Cancellation.firedBefore] using hk)]
      simp

lemma made_isPrefix_outcome (engine : Engine σ) (c : Cancellation) (proc : Procedure ε α) (s : σ)
    (made : List Request) : made <+: (proc.outcome engine c s made).2.1 := by
  induction proc generalizing s made with
  | done result => exact List.prefix_rfl
  | report event rest ih =>
    rw [outcome_report]
    exact ih s made
  | call request ifCancelled next ih =>
    have hnext : ∀ x, made <+: ((next x).outcome engine c (engine.serve request s).state
        (made ++ [request])).2.1 := fun x => (List.prefix_append _ _).trans (ih x _ _)
    cases ifCancelled with
    | none =>
      rw [outcome_call_none]
      cases (engine.serve request s).answer with
      | none => exact List.prefix_append _ _
      | some x => exact hnext x
    | some cancelled =>
      rw [outcome_call_some]
      split
      · exact List.prefix_rfl
      · split
        · exact List.prefix_append _ _
        · cases (engine.serve request s).answer with
          | none => exact List.prefix_append _ _
          | some x => exact hnext x

/-- A run that yields a value is not affected by its cancellation. -/
lemma outcome_of_ok {proc : Procedure ε α} {s s' : σ} {made made' : List Request} {a : α}
    (h : proc.outcome engine c s made = (s', made', .finished (.ok a)))
    (hquiet : c'.QuietUpTo made'.length) :
    proc.outcome engine c' s made = (s', made', .finished (.ok a)) := by
  induction proc generalizing s made with
  | done result => exact h
  | report event rest ih =>
    rw [outcome_report] at h ⊢
    exact ih h
  | call request ifCancelled next ih =>
    cases ifCancelled with
    | none =>
      rw [outcome_call_none] at h ⊢
      cases hanswer : (engine.serve request s).answer with
      | none =>
        rw [hanswer] at h
        cases h
      | some x =>
        rw [hanswer] at h
        exact ih x h
    | some cancelled =>
      rw [outcome_call_some] at h ⊢
      by_cases hbefore : c.firedBefore made.length = true
      · rw [if_pos hbefore] at h
        cases h
      rw [if_neg hbefore] at h
      by_cases hduring : c.firesDuring made.length (engine.serve request s).answer.isNone = true
      · rw [if_pos hduring] at h
        cases h
      rw [if_neg hduring] at h
      cases hanswer : (engine.serve request s).answer with
      | none =>
        rw [hanswer] at h
        cases h
      | some x =>
        rw [hanswer] at h
        dsimp only at h
        have hfirst := made_isPrefix_outcome engine c (next x) (engine.serve request s).state
          (made ++ [request])
        rw [h] at hfirst
        have hlast : made.length < made'.length := by
          have hlength := hfirst.length_le
          rw [List.length_append] at hlength
          exact hlength
        obtain ⟨hbefore', hduring'⟩ := hquiet _ hlast
        rw [hbefore', Option.isNone_some, hduring']
        exact ih x h

lemma outcome_bind_report (proc : Procedure ε α) (event : α → Event) (f : α → β) (s : σ)
    (made : List Request) :
    (proc.bind fun a => report (event a) (done (.ok (f a)))).outcome engine c s made =
      ((proc.outcome engine c s made).1, (proc.outcome engine c s made).2.1,
        (proc.outcome engine c s made).2.2.map f) := by
  induction proc generalizing s made with
  | done result => cases result <;> rfl
  | report event rest ih =>
    rw [Procedure.bind, outcome_report, outcome_report]
    exact ih s made
  | call request ifCancelled next ih =>
    rw [Procedure.bind]
    cases ifCancelled with
    | none =>
      rw [outcome_call_none, outcome_call_none]
      cases (engine.serve request s).answer with
      | none => rfl
      | some x => exact ih x _ _
    | some cancelled =>
      rw [outcome_call_some, outcome_call_some]
      split
      · rfl
      · split
        · rfl
        · cases (engine.serve request s).answer with
          | none => rfl
          | some x => exact ih x _ _

/-- A procedure has been carried from `s₀` to `s`, with the requests `made`, and `rest` is left of
it. If its cancellation has fired, it did after the given number of its requests. -/
def Pending (engine : Engine σ) (fired : Option Nat) (proc : Procedure ε α) (s₀ : σ)
    (rest : Procedure ε α) (s : σ) (made : List Request) : Prop :=
  match fired with
  | none => ∀ c : Cancellation, c.QuietUpTo made.length →
    proc.outcome engine c s₀ [] = rest.outcome engine c s made
  | some k => k ≤ made.length ∧
    proc.outcome engine (.before k) s₀ [] = rest.outcome engine (.before k) s made

variable {fired : Option Nat} {proc rest rest' : Procedure ε α} {s₀ s : σ} {made : List Request}
  {p : Progress σ} {pace : Pace} {ending : Ending ε α}

lemma pending_start (engine : Engine σ) (proc : Procedure ε α) (s : σ)
    (hfired : ∀ k ∈ fired, k = 0) : Pending engine fired proc s proc s [] := by
  cases fired with
  | none => exact fun c _ => rfl
  | some k => exact ⟨Nat.le_of_eq (hfired k rfl), rfl⟩

lemma Pending.fire (h : Pending engine none proc s₀ rest s made) :
    Pending engine (some made.length) proc s₀ rest s made :=
  ⟨Nat.le_refl _, h _ (Cancellation.quiet_before _)⟩

lemma Pending.outcome_eq (h : Pending engine fired proc s₀ rest s made) :
    proc.outcome engine (.ofFired fired) s₀ [] = rest.outcome engine (.ofFired fired) s made := by
  cases fired with
  | none => exact h _ (Cancellation.quiet_never _)
  | some k => exact h.2

lemma Pending.onward (h : Pending engine fired proc s₀ rest s made)
    (hadvance : rest.advance engine fired.isSome { engine := s } pace = (p, .onward rest')) :
    Pending engine fired proc s₀ rest' p.engine (made ++ p.made) := by
  cases pace with
  | whole => cases hadvance
  | move =>
    cases rest with
    | done result => cases hadvance
    | report event rest =>
      cases hadvance
      have hmade : made ++ (Progress.tell { engine := s } event).made = made := List.append_nil _
      rw [hmade]
      cases fired with
      | none =>
        intro c hc
        rw [h c hc, outcome_report]
        rfl
      | some k =>
        refine ⟨h.1, ?_⟩
        rw [h.2, outcome_report]
        rfl
    | call request ifCancelled next =>
      cases fired with
      | none =>
        simp only [advance, move, Option.isSome_none] at hadvance
        cases hanswer : (engine.serve request s).answer with
        | none =>
          rw [hanswer] at hadvance
          cases hadvance
        | some x =>
          rw [hanswer] at hadvance
          cases hadvance
          intro c hc
          have hlast : made.length < (made ++ [request]).length := by simp
          obtain ⟨hbefore, hduring⟩ := hc _ hlast
          rw [h c (hc.mono (Nat.le_of_lt hlast))]
          cases ifCancelled with
          | none =>
            rw [outcome_call_none, hanswer]
            rfl
          | some cancelled =>
            rw [outcome_call_some, hbefore, hanswer, Option.isNone_some, hduring]
            rfl
      | some k =>
        cases ifCancelled with
        | some cancelled => cases hadvance
        | none =>
          simp only [advance, move, Option.isSome_some] at hadvance
          cases hanswer : (engine.serve request s).answer with
          | none =>
            rw [hanswer] at hadvance
            cases hadvance
          | some x =>
            rw [hanswer] at hadvance
            cases hadvance
            refine ⟨Nat.le_trans h.1 (by simp), ?_⟩
            rw [h.2, outcome_call_none, hanswer]
            rfl

/-- A pending procedure that ends has come to what it comes to in one go. -/
lemma Pending.ended (h : Pending engine fired proc s₀ rest s made)
    (hadvance : rest.advance engine fired.isSome { engine := s } pace = (p, .ended ending)) :
    proc.outcome engine (.ofFired fired) s₀ [] = (p.engine, made ++ p.made, ending) := by
  rw [h.outcome_eq]
  cases pace with
  | whole =>
    obtain ⟨c', hc', hbefore, hduring⟩ : ∃ c' : Cancellation,
        c' = (if fired.isSome then .before 0 else .never) ∧
        (∀ n, (Cancellation.ofFired fired).firedBefore (made.length + n) = c'.firedBefore n) ∧
        ∀ n b, (Cancellation.ofFired fired).firesDuring (made.length + n) b =
          c'.firesDuring n b := by
      cases fired with
      | none => exact ⟨_, rfl, fun _ => rfl, fun _ _ => rfl⟩
      | some k =>
        refine ⟨_, rfl, fun n => ?_, fun _ _ => rfl⟩
        have hk := h.1
        simp only [Cancellation.ofFired, Option.isSome_some, if_true, Cancellation.firedBefore,
          decide_eq_decide]
        omega
    have hshift := outcome_shift engine rest s made [] hbefore hduring
    rw [List.append_nil] at hshift
    rw [hshift]
    simp only [advance, ← hc'] at hadvance
    unfold outcome
    generalize rest.run engine c' { engine := s } = run at hadvance ⊢
    cases hadvance
    rfl
  | move =>
    cases rest with
    | done result =>
      cases hadvance
      rw [outcome_done, List.append_nil]
    | report event rest => cases hadvance
    | call request ifCancelled next =>
      cases fired with
      | none =>
        simp only [advance, move, Option.isSome_none] at hadvance
        cases hanswer : (engine.serve request s).answer with
        | some x =>
          rw [hanswer] at hadvance
          cases hadvance
        | none =>
          rw [hanswer] at hadvance
          cases hadvance
          cases ifCancelled with
          | none =>
            rw [outcome_call_none, hanswer]
            rfl
          | some cancelled =>
            rw [outcome_call_some, hanswer]
            rfl
      | some k =>
        cases ifCancelled with
        | some cancelled =>
          cases hadvance
          have hk : (Cancellation.ofFired (some k)).firedBefore made.length = true := by
            simpa [Cancellation.ofFired, Cancellation.firedBefore] using h.1
          rw [outcome_call_some, if_pos hk, List.append_nil]
        | none =>
          simp only [advance, move, Option.isSome_some] at hadvance
          cases hanswer : (engine.serve request s).answer with
          | some x =>
            rw [hanswer] at hadvance
            cases hadvance
          | none =>
            rw [hanswer] at hadvance
            cases hadvance
            rw [outcome_call_none, hanswer]
            rfl

/-- A procedure that waits where it can be cancelled ends there if its cancellation fires now. -/
lemma Pending.ended_blocked {cancelled : ε} (h : Pending engine fired proc s₀ rest s made)
    (hadvance : rest.advance engine fired.isSome { engine := s } pace =
      (p, .ended (.blocked (some cancelled)))) :
    proc.outcome engine .whenBlocked s₀ [] =
      (p.engine, made ++ p.made, .finished (.error cancelled)) := by
  have hended := h.ended hadvance
  cases fired with
  | none => exact outcome_whenBlocked hended
  | some k =>
    rw [h.outcome_eq] at hended
    exact (outcome_before_ne_blocked h.1 hended).elim

end Procedure

/-- Whether a cancellation is what a caller's own one, which fired after `fired` of the caller's
requests, is for a piece of work that took the caller from `first` requests to `last`. -/
def Cancellation.Fits (fired : Option Nat) (first last : Nat) (c : Cancellation) : Prop :=
  match fired with
  | none => c = .never
  | some k => c = .before (k - first) ∨ (c = .never ∧ last ≤ k) ∨ (c = .whenBlocked ∧ k = last)

lemma Cancellation.fits_ofFired (fired : Option Nat) (first last : Nat) :
    (ofFired (fired.map (· - first))).Fits fired first last := by
  cases fired with
  | none => rfl
  | some k => exact .inl rfl

/-- A cancellation that fires later is none for work that is over. -/
lemma Cancellation.Fits.fire {first last k : Nat} {c : Cancellation} (h : c.Fits none first last)
    (hk : last ≤ k) : c.Fits (some k) first last :=
  .inr (.inl ⟨h, hk⟩)

namespace Procedure

/-- How a procedure stands that a caller, who had made `m` requests before, has carried from `s₀`
to `s`, with the requests `made`. -/
inductive Partway (engine : Engine σ) (fired : Option Nat) (m : Nat) (proc : Procedure ε α)
    (s₀ s : σ) (made : List Request) : Advance ε α → Prop
  | onward (rest : Procedure ε α)
    (hpending : Pending engine (fired.map (· - m)) proc s₀ rest s made) :
    Partway engine fired m proc s₀ s made (.onward rest)
  | blocked (c : Cancellation) (ifCancelled : Option ε) (hfits : c.Fits fired m (m + made.length))
    (hblocked : proc.outcome engine c s₀ [] = (s, made, .blocked ifCancelled))
    (hcancelled : ∀ e, ifCancelled = some e →
      proc.outcome engine .whenBlocked s₀ [] = (s, made, .finished (.error e)) ∧
      ∀ k ∈ fired, k = m + made.length) :
    Partway engine fired m proc s₀ s made (.ended (.blocked ifCancelled))

variable {m : Nat} {left : Advance ε α}

lemma partway_start (engine : Engine σ) (proc : Procedure ε α) (s : σ)
    (hfired : ∀ k ∈ fired, k ≤ m) : Partway engine fired m proc s s [] (.onward proc) := by
  refine .onward proc (pending_start engine proc s fun k' hk' => ?_)
  obtain ⟨k, hk, rfl⟩ := Option.map_eq_some_iff.1 hk'
  have hkm := hfired k hk
  omega

lemma Partway.onward_of_advance (h : Partway engine fired m proc s₀ s made (.onward rest))
    (hadvance : rest.advance engine fired.isSome { engine := s } pace = (p, .onward rest')) :
    Partway engine fired m proc s₀ p.engine (made ++ p.made) (.onward rest') := by
  cases h with
  | onward _ hpending =>
    rw [← Option.isSome_map (f := (· - m))] at hadvance
    exact .onward rest' (hpending.onward hadvance)

lemma Partway.finished_of_advance {result : Except ε α}
    (h : Partway engine fired m proc s₀ s made (.onward rest))
    (hadvance : rest.advance engine fired.isSome { engine := s } pace =
      (p, .ended (.finished result))) :
    ∃ c : Cancellation, c.Fits fired m (m + (made ++ p.made).length) ∧
      proc.outcome engine c s₀ [] = (p.engine, made ++ p.made, .finished result) := by
  cases h with
  | onward _ hpending =>
    rw [← Option.isSome_map (f := (· - m))] at hadvance
    exact ⟨_, Cancellation.fits_ofFired _ _ _, hpending.ended hadvance⟩

lemma Partway.blocked_of_advance {ifCancelled : Option ε}
    (h : Partway engine fired m proc s₀ s made (.onward rest))
    (hadvance : rest.advance engine fired.isSome { engine := s } pace =
      (p, .ended (.blocked ifCancelled))) :
    Partway engine fired m proc s₀ p.engine (made ++ p.made) (.ended (.blocked ifCancelled)) := by
  cases h with
  | onward _ hpending =>
    rw [← Option.isSome_map (f := (· - m))] at hadvance
    refine .blocked _ _ (Cancellation.fits_ofFired _ _ _) (hpending.ended hadvance) ?_
    rintro e rfl
    refine ⟨hpending.ended_blocked hadvance, fun k hk => ?_⟩
    obtain rfl := hk
    exact (outcome_before_ne_blocked hpending.1
      (hpending.outcome_eq.symm.trans (hpending.ended hadvance))).elim

/-- Who waits in vain can leave once the own cancellation has fired. -/
lemma Partway.finished_of_fired {e : ε}
    (h : Partway engine fired m proc s₀ s made (.ended (.blocked (some e))))
    (hfired : fired.isSome) :
    ∃ c : Cancellation, c.Fits fired m (m + made.length) ∧
      proc.outcome engine c s₀ [] = (s, made, .finished (.error e)) := by
  cases h with
  | blocked c _ hfits hblocked hcancelled =>
    obtain ⟨hwhen, hk⟩ := hcancelled e rfl
    obtain ⟨k, rfl⟩ := Option.isSome_iff_exists.1 hfired
    exact ⟨.whenBlocked, .inr (.inr ⟨rfl, hk k rfl⟩), hwhen⟩

lemma Partway.fire (h : Partway engine none m proc s₀ s made left) :
    Partway engine (some (m + made.length)) m proc s₀ s made left := by
  cases h with
  | onward rest hpending =>
    have hnow : (some (m + made.length)).map (· - m) = some made.length := by simp
    exact .onward rest (hnow ▸ hpending.fire)
  | blocked c ifCancelled hfits hblocked hcancelled =>
    refine .blocked c ifCancelled (hfits.fire (Nat.le_refl _)) hblocked fun e he => ?_
    refine ⟨(hcancelled e he).1, ?_⟩
    rintro k ⟨⟩
    rfl

/-- The requests made so far are the first ones of a whole run. -/
lemma Partway.isPrefix (h : Partway engine fired m proc s₀ s made left) :
    ∃ c : Cancellation, c.Fits fired m (m + made.length) ∧
      made <+: (proc.outcome engine c s₀ []).2.1 := by
  cases h with
  | onward rest hpending =>
    refine ⟨_, Cancellation.fits_ofFired _ _ _, ?_⟩
    rw [hpending.outcome_eq]
    exact made_isPrefix_outcome engine _ rest s made
  | blocked c ifCancelled hfits hblocked hcancelled =>
    have hmade : (proc.outcome engine c s₀ []).2.1 = made := by rw [hblocked]
    exact ⟨c, hfits, hmade ▸ List.prefix_rfl⟩

end Procedure

end ApiBalancer
