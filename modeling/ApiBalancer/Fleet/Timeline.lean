import ApiBalancer.Engine.Inventory
import ApiBalancer.Fleet.Concurrent

/-!
# Timelines

Callers and other events on a clock, over one inventory. Nothing takes time but waiting, so at each
moment of the clock everybody who can go on does: who has been let go on runs as far as the engine
answers, and those who need not wait for it any longer run after it, first come, first served.
-/

namespace ApiBalancer

/-- What happens on a timeline. An event that is no task is over at once, with a value in `β`. -/
inductive Occasion (β : Type) where
  | task (spec : ClusterSpec) (task : Balancer.Task)
  | instant (act : Traffic Inventory → Traffic Inventory × β)

inductive Occasion.Result (β : Type) where
  | task (result : Except BalancerError Balancer.Answer)
  | instant (value : β)

structure Scheduled (β : Type) where
  occasion : Occasion β
  start : Nat := 0
  cancellation : Option Nat := none

structure Finished (β : Type) where
  /-- Its place in the list of events. -/
  event : Nat
  result : Occasion.Result β
  /-- The number of calls that had been made. -/
  calls : Nat

structure Course (β : Type) where
  traffic : Traffic Inventory
  /-- The events that are over, in the order in which they ended. -/
  finished : List (Finished β) := []
  cancelled : List Nat := []

namespace Course

variable {β : Type}

def finish (c : Course β) (event : Nat) (result : Occasion.Result β) : Course β :=
  { c with finished := c.finished ++ [⟨event, result, c.traffic.engine.calls.length⟩] }

/-- Puts down that a task is over, if its caller has returned. -/
def noteReturn (c : Course β) (i : Nat) : Course β :=
  match c.traffic.caller? i with
  | some { phase := .returned result, .. } => c.finish i (.task result)
  | _ => c

@[simp] theorem traffic_noteReturn (c : Course β) (i : Nat) :
    (c.noteReturn i).traffic = c.traffic := by
  unfold noteReturn
  split <;> rfl

/-- Lets callers go on, the first as far as it can, then the others and those who need not wait any
longer. -/
def runReady (ready : List Nat) (c : Course β) : Course β :=
  match ready with
  | [] => c
  | i :: rest =>
    match c.traffic.step .whole Inventory.engine i with
    | none => runReady rest c
    | some (t, woken) =>
      if _h : t.toGo < c.traffic.toGo then
        runReady (i :: rest ++ woken) ({ c with traffic := t }.noteReturn i)
      else c
termination_by (c.traffic.toGo, ready.length)
decreasing_by
  · exact Prod.Lex.right _ (Nat.lt_succ_self _)
  · exact Prod.Lex.left _ _ (by simpa using _h)

inductive Action where
  | cancel (event : Nat)
  | start (event : Nat)

/-- The moments of the clock at which something happens, with what happens, in the order of time. -/
def agenda (events : List (Scheduled β)) : List (Nat × Action) :=
  let cancels := events.zipIdx.filterMap fun (e, i) =>
    e.cancellation.map fun time => (time, Action.cancel i)
  let starts := events.zipIdx.map fun (e, i) => (e.start, Action.start i)
  (cancels ++ starts).mergeSort fun a b => a.1 ≤ b.1

def act (events : List (Scheduled β)) (c : Course β) : Action → Course β
  | .cancel i =>
    runReady [i] { c with traffic := c.traffic.cancel i, cancelled := c.cancelled ++ [i] }
  | .start i =>
    match events[i]? with
    | some { occasion := .task spec task, .. } =>
      let caller : Caller := { id := i, spec, task, cancelled := i ∈ c.cancelled }
      runReady [i] { c with traffic := c.traffic.arrive caller }
    | some { occasion := .instant act, .. } =>
      let (t, value) := act c.traffic
      { c with traffic := t }.finish i (.instant value)
    | none => c

def ofEvents (traffic : Traffic Inventory) (events : List (Scheduled β)) : Course β :=
  (agenda events).foldl (fun c moment => c.act events moment.2) { traffic }

/-- Those of the first `n` events that never end, in their order. -/
def hung (c : Course β) (n : Nat) : List Nat :=
  (List.range n).filter fun i => !c.finished.any (·.event == i)

end Course

end ApiBalancer
