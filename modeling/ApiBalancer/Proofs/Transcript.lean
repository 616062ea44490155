import ApiBalancer.Engine.Procedure
import Mathlib.Tactic.Common

/-!
# Transcripts of runs

A run makes requests and hears answers. `Procedure.transcript` lists both, as far as the procedure
itself has heard: a request that was given up, or that is never answered, stands without an answer.
`Procedure.Talk` gives the transcripts that a procedure can have with any engine at all, and
`talk_run` says that the transcript of every run is one of them.
-/

namespace ApiBalancer

/-- A request with the answer that the procedure has heard, if it has heard one. -/
structure Exchange where
  request : Request
  heard : Option (Except EngineError request.Answer)

/-- What a request that succeeds has heard. -/
def Exchange.ok (request : Request) (a : request.Answer) : Exchange := ⟨request, some (.ok a)⟩

deriving instance DecidableEq for Ending

variable {σ ε α β : Type}

/-- The end of a run whose value is passed on as another one. -/
def Ending.map (f : α → β) : Ending ε α → Ending ε β
  | .finished result => .finished (result.map f)
  | .blocked ifCancelled => .blocked ifCancelled

/-- The end of a run that yields no value. -/
def Ending.Fails (e : Ending ε α) : Prop := ∀ a, e ≠ .finished (.ok a)

@[simp] lemma fails_error (err : ε) : Ending.Fails (α := α) (.finished (.error err)) := by
  intro a h
  cases h

@[simp] lemma fails_blocked (c : Option ε) : Ending.Fails (α := α) (.blocked c) := by
  intro a h
  cases h

lemma Ending.Fails.map {e : Ending ε α} (h : e.Fails) (f : α → β) : (e.map f).Fails := by
  cases e with
  | finished result =>
    cases result with
    | ok a => exact (h a rfl).elim
    | error err => exact fails_error err
  | blocked c => exact fails_blocked c

namespace Procedure

@[simp] lemma pure_eq (a : α) : (pure a : Procedure ε α) = done (.ok a) := rfl

@[simp] lemma bind_eq (proc : Procedure ε α) (f : α → Procedure ε β) : proc >>= f = proc.bind f := rfl

@[simp] lemma done_ok_bind (a : α) (f : α → Procedure ε β) : (done (.ok a)).bind f = f a := rfl

lemma bind_assoc {γ : Type} (proc : Procedure ε α) (f : α → Procedure ε β)
    (g : β → Procedure ε γ) : (proc.bind f).bind g = proc.bind fun a => (f a).bind g := by
  induction proc with
  | done result =>
    cases result <;> rfl
  | report event rest ih => exact congrArg (report event) ih
  | call request ifCancelled next ih => exact congrArg (call request ifCancelled) (funext ih)

lemma under_bind (cancelled : ε) (wrap : EngineError → ε) (proc : Procedure EngineError α)
    (f : α → Procedure EngineError β) :
    (proc.bind f).under cancelled wrap =
      (proc.under cancelled wrap).bind fun a => (f a).under cancelled wrap := by
  induction proc with
  | done result =>
    cases result <;> rfl
  | report event rest ih => exact congrArg (report event) ih
  | call request ifCancelled next ih => exact congrArg (call request (some cancelled)) (funext ih)

lemma run_tellAll_bind (engine : Engine σ) (cancellation : Cancellation) (events : List Event)
    (f : Unit → Procedure ε α) (p : Progress σ) :
    ((tellAll events).bind f).run engine cancellation p =
      (f ()).run engine cancellation (p.tellAll events) := by
  induction events generalizing p with
  | nil => simp [tellAll, Progress.tellAll]
  | cons event rest ih =>
    have htell : (p.tell event).tellAll rest = p.tellAll (event :: rest) := by
      simp [Progress.tell, Progress.tellAll]
    rw [← htell]
    exact ih _

/-- What a run asks and hears. -/
def transcript (engine : Engine σ) (cancellation : Cancellation) :
    Procedure ε α → Progress σ → List Exchange
  | done _, _ => []
  | report event rest, p => rest.transcript engine cancellation (p.tell event)
  | call request ifCancelled next, p =>
    let reply := engine.serve request p.engine
    if ifCancelled.isSome && cancellation.firedBefore p.made.length then []
    else if ifCancelled.isSome && cancellation.firesDuring p.made.length reply.answer.isNone then
      [⟨request, none⟩]
    else
      match reply.answer with
      | some x =>
        ⟨request, some x⟩ :: (next x).transcript engine cancellation (p.after request reply)
      | none => [⟨request, none⟩]

/-- The transcripts that a procedure can have, each with the way in which the run then ends. The
engine may answer as it likes or not at all, and a request that can be cancelled may be left out or
given up at any time. -/
inductive Talk : Procedure ε α → List Exchange → Ending ε α → Prop
  | done (result : Except ε α) : Talk (done result) [] (.finished result)
  | report (event : Event) {rest : Procedure ε α} {l : List Exchange} {e : Ending ε α} :
    Talk rest l e → Talk (report event rest) l e
  | leftOut (request : Request) (cancelled : ε) (next) :
    Talk (call request (some cancelled) next) [] (.finished (.error cancelled))
  | givenUp (request : Request) (cancelled : ε) (next) :
    Talk (call request (some cancelled) next) [⟨request, none⟩] (.finished (.error cancelled))
  | blocked (request : Request) (ifCancelled : Option ε) (next) :
    Talk (call request ifCancelled next) [⟨request, none⟩] (.blocked ifCancelled)
  | answered (request : Request) (ifCancelled : Option ε)
    (next : Except EngineError request.Answer → Procedure ε α)
    (x : Except EngineError request.Answer) {l : List Exchange} {e : Ending ε α} :
    Talk (next x) l e → Talk (call request ifCancelled next) (⟨request, some x⟩ :: l) e

/-- The transcript of a run is one that the procedure can have, and the run ends as it says. -/
theorem talk_run (engine : Engine σ) (cancellation : Cancellation) (proc : Procedure ε α)
    (p : Progress σ) :
    Talk proc (proc.transcript engine cancellation p) (proc.run engine cancellation p).2 := by
  induction proc generalizing p with
  | done result => exact .done result
  | report event rest ih => exact .report event (ih _)
  | call request ifCancelled next ih =>
    cases ifCancelled with
    | none =>
      simp only [transcript, run, Option.isSome_none, Bool.false_and, Bool.false_eq_true, if_false]
      cases (engine.serve request p.engine).answer with
      | none => exact .blocked request none next
      | some x => exact .answered request none next x (ih x _)
    | some cancelled =>
      simp only [transcript, run, Option.isSome_some, Bool.true_and]
      split
      · exact .leftOut request cancelled next
      · split
        · exact .givenUp request cancelled next
        · cases (engine.serve request p.engine).answer with
          | none => exact .blocked request (some cancelled) next
          | some x => exact .answered request (some cancelled) next x (ih x _)

theorem made_run (engine : Engine σ) (cancellation : Cancellation) (proc : Procedure ε α)
    (p : Progress σ) :
    (proc.run engine cancellation p).1.made =
      p.made ++ (proc.transcript engine cancellation p).map (·.request) := by
  induction proc generalizing p with
  | done result => simp [run, transcript]
  | report event rest ih => simp [run, transcript, ih, Progress.tell]
  | call request ifCancelled next ih =>
    cases ifCancelled with
    | none =>
      simp only [transcript, run, Option.isSome_none, Bool.false_and, Bool.false_eq_true, if_false]
      cases (engine.serve request p.engine).answer with
      | none => simp [Progress.after]
      | some x => simp [ih, Progress.after]
    | some cancelled =>
      simp only [transcript, run, Option.isSome_some, Bool.true_and]
      split
      · simp
      · split
        · simp [Progress.after]
        · cases (engine.serve request p.engine).answer with
          | none => simp [Progress.after]
          | some x => simp [ih, Progress.after]

/-! ### Talks of composed procedures -/

/-- Either the first part yields a value, with which the second goes on, or its end is the end. -/
theorem Talk.of_bind {proc : Procedure ε α} {f : α → Procedure ε β} {l : List Exchange}
    {e : Ending ε β} (h : Talk (proc.bind f) l e) :
    (∃ l₁ l₂ a, l = l₁ ++ l₂ ∧ Talk proc l₁ (.finished (.ok a)) ∧ Talk (f a) l₂ e) ∨
    (∃ err, Talk proc l (.finished (.error err)) ∧ e = .finished (.error err)) ∨
    (∃ c, Talk proc l (.blocked c) ∧ e = .blocked c) := by
  induction proc generalizing l with
  | done result =>
    cases result with
    | ok a => exact .inl ⟨[], l, a, rfl, .done _, h⟩
    | error err =>
      cases h with
      | done => exact .inr (.inl ⟨err, .done _, rfl⟩)
  | report event rest ih =>
    cases h with
    | report _ h =>
      rcases ih h with ⟨l₁, l₂, a, rfl, h₁, h₂⟩ | ⟨err, h₁, rfl⟩ | ⟨c, h₁, rfl⟩
      · exact .inl ⟨l₁, l₂, a, rfl, .report event h₁, h₂⟩
      · exact .inr (.inl ⟨err, .report event h₁, rfl⟩)
      · exact .inr (.inr ⟨c, .report event h₁, rfl⟩)
  | call request ifCancelled next ih =>
    cases h with
    | leftOut _ cancelled => exact .inr (.inl ⟨cancelled, .leftOut _ _ _, rfl⟩)
    | givenUp _ cancelled => exact .inr (.inl ⟨cancelled, .givenUp _ _ _, rfl⟩)
    | blocked => exact .inr (.inr ⟨ifCancelled, .blocked _ _ _, rfl⟩)
    | answered _ _ _ x h =>
      rcases ih x h with ⟨l₁, l₂, a, rfl, h₁, h₂⟩ | ⟨err, h₁, rfl⟩ | ⟨c, h₁, rfl⟩
      · exact .inl ⟨_ :: l₁, l₂, a, rfl, .answered _ _ _ x h₁, h₂⟩
      · exact .inr (.inl ⟨err, .answered _ _ _ x h₁, rfl⟩)
      · exact .inr (.inr ⟨c, .answered _ _ _ x h₁, rfl⟩)

theorem Talk.of_bind_or_fails {proc : Procedure ε α} {f : α → Procedure ε β} {l : List Exchange}
    {e : Ending ε β} (h : Talk (proc.bind f) l e) :
    (∃ l₁ l₂ a, l = l₁ ++ l₂ ∧ Talk proc l₁ (.finished (.ok a)) ∧ Talk (f a) l₂ e) ∨
    (e.Fails ∧ ∃ e₁ : Ending ε α, e₁.Fails ∧ Talk proc l e₁) := by
  rcases h.of_bind with h | ⟨err, h₁, rfl⟩ | ⟨c, h₁, rfl⟩
  · exact .inl h
  · exact .inr ⟨fails_error _, _, fails_error _, h₁⟩
  · exact .inr ⟨fails_blocked _, _, fails_blocked _, h₁⟩

end Procedure

end ApiBalancer
