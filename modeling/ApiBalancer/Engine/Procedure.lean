import ApiBalancer.Event

/-!
# Procedures

A `Procedure` is a piece of work on a container engine, written down as data: the events that it
reports, the requests that it makes and how it goes on after each answer. The same procedure can be
run on any engine, under any cancellation, and step by step beside others.

`Procedure.run` carries one procedure through on an `Engine`. A request that can be cancelled is not
made once the cancellation has fired, and is given up if the cancellation fires while the request is
under way; the procedure then ends with the error that it keeps for this case.
-/

namespace ApiBalancer

/-- Work on a container engine that ends in a value or an error. -/
inductive Procedure (ε α : Type) where
  | done (result : Except ε α)
  | report (event : Event) (rest : Procedure ε α)
  /-- Makes a request and goes on with the answer. A request that can be cancelled holds the error
  with which the procedure then ends. -/
  | call (request : Request) (ifCancelled : Option ε)
      (next : Except EngineError request.Answer → Procedure ε α)

namespace Procedure

variable {ε ε' α β : Type}

def fail (e : ε) : Procedure ε α := done (.error e)

def bind : Procedure ε α → (α → Procedure ε β) → Procedure ε β
  | done (.ok a), f => f a
  | done (.error e), _ => done (.error e)
  | report event rest, f => report event (rest.bind f)
  | call request ifCancelled next, f => call request ifCancelled fun x => (next x).bind f

instance : Monad (Procedure ε) where
  pure a := done (.ok a)
  bind := bind

def tell (event : Event) : Procedure ε Unit := report event (pure ())

def tellAll : List Event → Procedure ε Unit
  | [] => pure ()
  | event :: rest => report event (tellAll rest)

/-- Makes one request, which cannot be cancelled. -/
def ask (request : Request) : Procedure EngineError request.Answer :=
  call request none done

/-- Makes the requests of a procedure cancellable, with the given error, and wraps its own error. -/
def under (cancelled : ε) (wrap : EngineError → ε) : Procedure EngineError α → Procedure ε α
  | done (.ok a) => done (.ok a)
  | done (.error e) => done (.error (wrap e))
  | report event rest => report event (rest.under cancelled wrap)
  | call request _ next => call request (some cancelled) fun x => (next x).under cancelled wrap

/-- The error of a failed step, or the value of a computation that makes no request. -/
def ofExcept : Except ε α → Procedure ε α := done

end Procedure

/-- What an engine does with a request: its new state, what it reports, and its answer, if it ever
gives one. -/
structure Reply (σ : Type) (request : Request) where
  state : σ
  events : List Event := []
  answer : Option (Except EngineError request.Answer)

structure Engine (σ : Type) where
  serve : (request : Request) → σ → Reply σ request

/-- When a cancellation fires, counted in the requests made before. -/
inductive Cancellation where
  | never
  /-- Has fired once `n` requests have been made; at 0 it has fired from the start. -/
  | before (n : Nat)
  /-- Fires while the request after `n` others is under way. -/
  | during (n : Nat)
  /-- Fires as soon as a request gets no answer. -/
  | whenBlocked
deriving DecidableEq, Repr

namespace Cancellation

/-- Whether the cancellation has fired before the request that follows `n` others. -/
def firedBefore (n : Nat) : Cancellation → Bool
  | before k => k ≤ n
  | during k => k < n
  | never | whenBlocked => false

/-- Whether the cancellation fires while the request that follows `n` others is under way. -/
def firesDuring (n : Nat) (blocked : Bool) : Cancellation → Bool
  | during k => k == n
  | whenBlocked => blocked
  | never | before _ => false

end Cancellation

structure Progress (σ : Type) where
  engine : σ
  /-- The requests made, oldest first. -/
  made : List Request := []
  /-- The events reported, oldest first. -/
  events : List Event := []

namespace Progress

variable {σ : Type}

def tell (p : Progress σ) (event : Event) : Progress σ :=
  { p with events := p.events ++ [event] }

def tellAll (p : Progress σ) (events : List Event) : Progress σ :=
  { p with events := p.events ++ events }

def after (p : Progress σ) (request : Request) (reply : Reply σ request) : Progress σ where
  engine := reply.state
  made := p.made ++ [request]
  events := p.events ++ reply.events

end Progress

inductive Ending (ε α : Type) where
  | finished (result : Except ε α)
  /-- The engine does not answer. If the request can be cancelled, a cancellation would end the run
  with the error. -/
  | blocked (ifCancelled : Option ε)

variable {σ ε α : Type}

def Procedure.run (engine : Engine σ) (cancellation : Cancellation) :
    Procedure ε α → Progress σ → Progress σ × Ending ε α
  | done result, p => (p, .finished result)
  | report event rest, p => rest.run engine cancellation (p.tell event)
  | call request (some cancelled) next, p =>
    if cancellation.firedBefore p.made.length then (p, .finished (.error cancelled))
    else
      let reply := engine.serve request p.engine
      if cancellation.firesDuring p.made.length reply.answer.isNone then
        (p.after request reply, .finished (.error cancelled))
      else
        match reply.answer with
        | some x => (next x).run engine cancellation (p.after request reply)
        | none => (p.after request reply, .blocked (some cancelled))
  | call request none next, p =>
    let reply := engine.serve request p.engine
    match reply.answer with
    | some x => (next x).run engine cancellation (p.after request reply)
    | none => (p.after request reply, .blocked none)

/-- Where a procedure stands after some moves. -/
inductive Advance (ε α : Type) where
  | onward (rest : Procedure ε α)
  | ended (ending : Ending ε α)

/-- Carries a procedure to its first report or request and past it, where `fired` tells whether its
cancellation has fired. -/
def Procedure.move (engine : Engine σ) (fired : Bool) :
    Procedure ε α → Progress σ → Progress σ × Advance ε α
  | done result, p => (p, .ended (.finished result))
  | report event rest, p => (p.tell event, .onward rest)
  | call request ifCancelled next, p =>
    match fired, ifCancelled with
    | true, some cancelled => (p, .ended (.finished (.error cancelled)))
    | _, _ =>
      let reply := engine.serve request p.engine
      match reply.answer with
      | some x => (p.after request reply, .onward (next x))
      | none => (p.after request reply, .ended (.blocked ifCancelled))

/-- How far work is carried before others get a turn. -/
inductive Pace where
  /-- Past one report or request. -/
  | move
  /-- As far as the engine answers. -/
  | whole
deriving DecidableEq, Repr

def Procedure.advance (engine : Engine σ) (fired : Bool) (proc : Procedure ε α) (p : Progress σ) :
    Pace → Progress σ × Advance ε α
  | .move => proc.move engine fired p
  | .whole =>
    let (p', ending) := proc.run engine (if fired then .before 0 else .never) p
    (p', .ended ending)

end ApiBalancer
