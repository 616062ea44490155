import ApiBalancer.Fleet.Basic
import ApiBalancer.Fleet.Line

/-!
# Tasks beside each other

Several callers use the balancers of a fleet at the same time. Each cluster has a slot with its
balancer. While the slot is empty, one caller at a time looks the balancer up; those who come
meanwhile wait, and go on together once it is found. Work on a balancer is done by the holder of the
slot's lock, which passes to the waiting in the order in which they came. Forgetting a cluster takes
the slot away from later callers only.

`Traffic.step` lets one caller go on; which caller that is, and when a cancellation fires, is left to
whoever drives the traffic.
-/

namespace ApiBalancer

/-- What holds the balancer of one cluster. -/
structure Slot where
  balancer : Option Balancer := none
  lookUp : Line := {}
  lock : Line := {}

inductive Phase where
  | arrived
  /-- There was no slot for the cluster; one is to be made. -/
  | missed
  | atSlot (slot : Nat)
  | waitsForLookUp (slot : Nat)
  /-- It is this caller's turn to look the balancer up. -/
  | startsLookUp (slot : Nat)
  | looksUp (slot : Nat) (rest : Procedure BalancerError Balancer)
  /-- The engine does not answer. -/
  | stuckInLookUp (slot : Nat) (ifCancelled : Option BalancerError)
  | atLock (slot : Nat)
  | waitsForLock (slot : Nat)
  | startsWork (slot : Nat)
  | works (slot : Nat) (rest : Procedure BalancerError (Balancer × Balancer.Answer))
  | stuckInWork (slot : Nat) (ifCancelled : Option BalancerError)
  | returned (result : Except BalancerError Balancer.Answer)

namespace Phase

def slot? : Phase → Option Nat
  | .arrived | .missed | .returned _ => none
  | .atSlot n | .waitsForLookUp n | .startsLookUp n | .looksUp n _ | .stuckInLookUp n _
  | .atLock n | .waitsForLock n | .startsWork n | .works n _ | .stuckInWork n _ => some n

/-- How many phases a caller may still go through. -/
def toGo : Phase → Nat
  | .arrived => 12
  | .missed => 11
  | .atSlot _ => 10
  | .waitsForLookUp _ => 9
  | .startsLookUp _ => 8
  | .looksUp _ _ => 7
  | .stuckInLookUp _ _ => 6
  | .atLock _ => 5
  | .waitsForLock _ => 4
  | .startsWork _ => 3
  | .works _ _ => 2
  | .stuckInWork _ _ => 1
  | .returned _ => 0

end Phase

structure Caller where
  id : Nat
  spec : ClusterSpec
  task : Balancer.Task
  cancelled : Bool := false
  phase : Phase := .arrived

/-- The callers of a fleet, with all that they share. -/
structure Traffic (σ : Type) where
  plan : Plan := {}
  callers : List Caller := []
  /-- The tracked clusters with the numbers of their slots. -/
  table : NameMap Nat := ∅
  /-- All slots that were made, of forgotten clusters too. -/
  slots : List Slot := []
  engine : σ
  /-- The requests made, oldest first, each with the caller who made it. -/
  made : List (Nat × Request) := []

namespace Traffic

variable {σ : Type}

def caller? (t : Traffic σ) (i : Nat) : Option Caller := t.callers.find? (·.id == i)

def changeCallers (t : Traffic σ) (ids : List Nat) (f : Caller → Caller) : Traffic σ :=
  { t with callers := t.callers.map fun c => if c.id ∈ ids then f c else c }

def moveTo (t : Traffic σ) (ids : List Nat) (phase : Phase) : Traffic σ :=
  t.changeCallers ids fun c => { c with phase }

def changeSlot (t : Traffic σ) (n : Nat) (f : Slot → Slot) : Traffic σ :=
  { t with slots := t.slots.modify n f }

/-- Takes over what a caller's progress has done to the engine. -/
def progressed (t : Traffic σ) (i : Nat) (p : Progress σ) : Traffic σ :=
  { t with engine := p.engine, made := t.made ++ p.made.map (i, ·) }

/-! ### From outside -/

/-- The traffic on a fleet and an engine before anyone has come. -/
def ofFleet (fleet : Fleet) (engine : σ) : Traffic σ where
  plan := fleet.plan
  table := NameMap.ofList (fleet.clusters.zipIdx)
  slots := fleet.slots.values.map fun balancer => { balancer }
  engine

/-- A caller comes, with a number that nobody else has. -/
def arrive (t : Traffic σ) (caller : Caller) : Traffic σ :=
  { t with callers := t.callers ++ [caller] }

def cancel (t : Traffic σ) (i : Nat) : Traffic σ :=
  t.changeCallers [i] fun c => { c with cancelled := true }

/-- A cluster is no longer tracked. Callers who have its slot keep it. -/
def forget (t : Traffic σ) (cluster : String) : Traffic σ :=
  { t with table := t.table.erase cluster }

def tracks (t : Traffic σ) (cluster : String) : Bool := t.table.contains cluster

def clusters (t : Traffic σ) : List String := t.table.keys

/-- A caller's look-up has failed or was cancelled: the next of the waiting may try. -/
def lookUpFailed (t : Traffic σ) (i n : Nat) (slot : Slot) (e : BalancerError) :
    Traffic σ × List Nat :=
  let next := slot.lookUp.waiting.take 1
  (((t.changeSlot n fun s => { s with lookUp := slot.lookUp.leave }).moveTo next
    (.startsLookUp n)).moveTo [i] (.returned (.error e)), next)

/-- A caller has found the balancer: it goes on to the lock, and the waiting after it. -/
def lookedUp (t : Traffic σ) (i n : Nat) (slot : Slot) (b : Balancer) : Traffic σ × List Nat :=
  let waiting := slot.lookUp.waiting
  ((t.changeSlot n fun s => { s with balancer := some b, lookUp := {} }).moveTo (i :: waiting)
    (.atLock n), waiting)

/-- A caller's work is over: the next of the waiting may work. -/
def workEnded (t : Traffic σ) (i n : Nat) (slot : Slot)
    (result : Except BalancerError (Balancer × Balancer.Answer)) : Traffic σ × List Nat :=
  let next := slot.lock.waiting.take 1
  let balancer := match result with
    | .ok (b, _) => some b
    | .error _ => slot.balancer
  (((t.changeSlot n fun s => { s with balancer, lock := slot.lock.leave }).moveTo next
    (.startsWork n)).moveTo [i] (.returned (result.map (·.2))), next)

def stepAt (pace : Pace) (engine : Engine σ) (t : Traffic σ) (c : Caller) (n : Nat) (slot : Slot) :
    Option (Traffic σ × List Nat) :=
  match c.phase with
  | .atSlot _ =>
    if slot.balancer.isSome then some (t.moveTo [c.id] (.atLock n), [])
    else
      some ((t.changeSlot n fun s => { s with lookUp := s.lookUp.join c.id }).moveTo [c.id]
        (if slot.lookUp.isFree then .startsLookUp n else .waitsForLookUp n), [])
  | .startsLookUp _ => some (t.moveTo [c.id] (.looksUp n (Balancer.lookUp t.plan c.spec)), [])
  | .looksUp _ work =>
    let (p, outcome) := work.advance engine c.cancelled { engine := t.engine } pace
    let t := t.progressed c.id p
    match outcome with
    | .onward rest => some (t.moveTo [c.id] (.looksUp n rest), [])
    | .ended (.finished (.ok b)) => some (t.lookedUp c.id n slot b)
    | .ended (.finished (.error e)) => some (t.lookUpFailed c.id n slot e)
    | .ended (.blocked ifCancelled) =>
      some (t.moveTo [c.id] (.stuckInLookUp n ifCancelled), [])
  | .stuckInLookUp _ (some e) =>
    if c.cancelled then some (t.lookUpFailed c.id n slot e) else none
  | .atLock _ =>
    some ((t.changeSlot n fun s => { s with lock := s.lock.join c.id }).moveTo [c.id]
      (if slot.lock.isFree then .startsWork n else .waitsForLock n), [])
  | .startsWork _ =>
    match slot.balancer with
    | some b =>
      let ready := b.withImage (c.spec.resolveImage t.plan.image)
      some ((t.changeSlot n fun s => { s with balancer := some ready }).moveTo [c.id]
        (.works n (ready.perform t.plan c.task)), [])
    | none => none
  | .works _ work =>
    let (p, outcome) := work.advance engine c.cancelled { engine := t.engine } pace
    let t := t.progressed c.id p
    match outcome with
    | .onward rest => some (t.moveTo [c.id] (.works n rest), [])
    | .ended (.finished result) => some (t.workEnded c.id n slot result)
    | .ended (.blocked ifCancelled) => some (t.moveTo [c.id] (.stuckInWork n ifCancelled), [])
  | .stuckInWork _ (some e) =>
    if c.cancelled then some (t.workEnded c.id n slot (.error e)) else none
  | _ => none

/-- Lets a caller go on, if it can: the traffic afterwards, and who need not wait any longer, in
the order in which they came. -/
def step (pace : Pace) (engine : Engine σ) (i : Nat) (t : Traffic σ) :
    Option (Traffic σ × List Nat) :=
  match t.caller? i with
  | none => none
  | some c =>
    match c.phase, t.table.get? c.spec.name with
    | .arrived, none => some (t.moveTo [i] .missed, [])
    | .arrived, some n | .missed, some n => some (t.moveTo [i] (.atSlot n), [])
    | .missed, none =>
      let n := t.slots.length
      let t := { t with table := t.table.insert c.spec.name n, slots := t.slots ++ [({} : Slot)] }
      some (t.moveTo [i] (.atSlot n), [])
    | phase, _ =>
      match phase.slot? with
      | none => none
      | some n =>
        match t.slots[n]? with
        | some slot => t.stepAt pace engine c n slot
        | none => none

def toGo (t : Traffic σ) : Nat := t.callers.foldr (fun c n => c.phase.toGo + n) 0

end Traffic

end ApiBalancer
