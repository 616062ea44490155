import ApiBalancer.Engine.Procedure

/-!
# The inventory

An engine that keeps its containers in a table: each with its address, the files written into it
and the signals sent to it. It records every call. For rehearsals it can be made to fail: the next
call of an operation, every look-up of one address, or never to answer an operation at all.
-/

namespace ApiBalancer

structure Entry where
  container : Container
  /-- The container's address; empty while it is stopped. -/
  address : String
  files : NameMap ByteArray := ∅
  /-- The signals sent to it, oldest first. -/
  signals : List Signal := []

/-- A table of containers that serves as an engine. -/
structure Inventory where
  entries : NameMap Entry := ∅
  /-- The calls made, oldest first. -/
  calls : List Call := []
  /-- The faults still to be delivered, each to the next call of its operation, oldest first. -/
  faults : List (Operation × String) := []
  /-- The containers whose address look-ups fail. -/
  addressFaults : NameMap String := ∅
  /-- The operations that are never answered. -/
  stalled : List Operation := []
  created : Nat := 0

namespace Inventory

/-- Puts a container into the table with an address, new or in place of one of that name. -/
def add (inv : Inventory) (container : Container) (address : String) : Inventory :=
  { inv with entries := inv.entries.insert container.name { container, address } }

def setAddress (inv : Inventory) (name address : String) : Inventory :=
  { inv with entries := inv.entries.modify name fun e => { e with address } }

/-- Takes a container out of the table without a call. -/
def remove (inv : Inventory) (name : String) : Inventory :=
  { inv with entries := inv.entries.erase name }

/-- Lets the next call of an operation fail that no earlier fault is waiting for. -/
def failNext (inv : Inventory) (operation : Operation) (message : String) : Inventory :=
  { inv with faults := inv.faults ++ [(operation, message)] }

/-- Lets every look-up of a container's address fail. -/
def failAddress (inv : Inventory) (name message : String) : Inventory :=
  { inv with addressFaults := inv.addressFaults.insert name message }

def clearAddressFault (inv : Inventory) (name : String) : Inventory :=
  { inv with addressFaults := inv.addressFaults.erase name }

/-- Leaves calls of an operation without an answer from now on. -/
def stall (inv : Inventory) (operation : Operation) : Inventory :=
  { inv with stalled := operation :: inv.stalled.filter (· != operation) }

def unstall (inv : Inventory) (operation : Operation) : Inventory :=
  { inv with stalled := inv.stalled.filter (· != operation) }

/-- Forgets the calls made so far. -/
def clearCalls (inv : Inventory) : Inventory := { inv with calls := [] }

def callsOf (inv : Inventory) (operation : Operation) : List Call :=
  inv.calls.filter (·.operation == operation)

def count (inv : Inventory) (operation : Operation) : Nat :=
  inv.calls.countP (·.operation == operation)

def contains (inv : Inventory) (name : String) : Bool := inv.entries.contains name

def names (inv : Inventory) : List String := inv.entries.keys

def addressOf? (inv : Inventory) (name : String) : Option String :=
  (inv.entries.get? name).map (·.address)

/-- The content last written to a path inside a container. -/
def file? (inv : Inventory) (name path : String) : Option ByteArray :=
  (inv.entries.get? name).bind (·.files.get? path)

def signals (inv : Inventory) (name : String) : List Signal :=
  match inv.entries.get? name with
  | some e => e.signals
  | none => []

def addresses (inv : Inventory) : List (String × String) :=
  inv.entries.toList.map fun e => (e.1, e.2.address)

def record (inv : Inventory) (call : Call) : Inventory :=
  { inv with calls := inv.calls ++ [call] }

/-- The first fault that waits for an operation, and the faults without it. -/
def takeFault (operation : Operation) :
    List (Operation × String) → Option (String × List (Operation × String))
  | [] => none
  | (o, message) :: rest =>
    if o = operation then some (message, rest)
    else (takeFault operation rest).map fun r => (r.1, (o, message) :: r.2)

/-- The address of the container created after `n` others. The number in it has 32 bits. -/
def createdAddress (n : Nat) : String :=
  "172.18.0." ++ toString (100 + UInt32.ofNat (n + 1)).toNat

/-- Changes the entry of a container, which must be there. -/
def change (inv : Inventory) (name : String) (f : Entry → Except EngineError Entry) :
    Inventory × Except EngineError Unit :=
  match inv.entries.get? name with
  | none => (inv, .error (.notFound name))
  | some e =>
    match f e with
    | .ok e' => ({ inv with entries := inv.entries.insert name e' }, .ok ())
    | .error err => (inv, .error err)

/-- Sends a signal to a container, which must be running. -/
def send (inv : Inventory) (name : String) (signal : Signal) :
    Inventory × Except EngineError Unit :=
  inv.change name fun e =>
    if e.address.isEmpty then .error (.failed ("container " ++ name ++ " is not running"))
    else .ok { e with signals := e.signals ++ [signal] }

/-- What a request does to the table and what it yields, when nothing stands in its way. -/
def work : (request : Request) → Inventory → Inventory × Except EngineError request.Answer
  | .create launch, inv =>
    if inv.contains launch.name then
      (inv, .error (.failed ("container name " ++ launch.name ++ " is already in use")))
    else
      let container := Container.node launch.name launch.cluster .externalLoadBalancer
      let inv' := inv.add container (createdAddress inv.created)
      ({ inv' with created := inv.created + 1 }, .ok container)
  | .list query, inv =>
    (inv, .ok ((inv.entries.values.map (·.container)).filter fun c => query.Matches c.labels))
  | .address container, inv =>
    match inv.addressFaults.get? container.name, inv.addressOf? container.name with
    | some message, _ => (inv, .error (.failed message))
    | none, some address => (inv, .ok address)
    | none, none => (inv, .error (.notFound container.name))
  | .writeFile container path content, inv =>
    inv.change container.name fun e => .ok { e with files := e.files.insert path content }
  | .signal container signal, inv => inv.send container.name signal
  | .reload container, inv => inv.send container.name .hangup
  | .delete container, inv =>
    if inv.contains container.name then (inv.remove container.name, .ok ())
    else (inv, .error (.notFound container.name))

/-- Serves a request: records the call, and then leaves it without an answer, delivers a fault, or
does the work. -/
def serve (request : Request) (inv : Inventory) : Reply Inventory request :=
  let operation := request.call.operation
  let recorded := inv.record request.call
  if operation ∈ inv.stalled then { state := recorded, answer := none }
  else
    match takeFault operation inv.faults with
    | some (message, faults) =>
      { state := { recorded with faults }
        events := [.faultInjected operation message]
        answer := some (.error (.failed message)) }
    | none =>
      let done := work request recorded
      { state := done.1, answer := some done.2 }

def engine : Engine Inventory := ⟨serve⟩

end Inventory

end ApiBalancer
