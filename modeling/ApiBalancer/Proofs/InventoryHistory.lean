import ApiBalancer.Proofs.Histories
import ApiBalancer.Proofs.Site

/-!
# Histories of inventories

What has happened to an inventory that was empty at the start: changes from outside, and requests
with what came of them. Later modules read off a history what the inventory must show.
-/

namespace ApiBalancer

open Inventory

/-- What is done to an inventory. -/
inductive Inventory.Move where
  | arrange (arrangement : Arrangement)
  | ask (request : Request)

/-- What has happened to an inventory: a change from outside, or a request with its answer, if it
got one, and with the events that were reported of it. -/
inductive Happening where
  | arranged (arrangement : Arrangement)
  | asked (exchange : Exchange) (events : List Event)

namespace Inventory

/-- The inventory once something is done to it. -/
def move (inv : Inventory) : Move → Inventory
  | .arrange arrangement => inv.arrange arrangement
  | .ask request => (serve request inv).state

/-- What happens if something is done to an inventory. -/
def happening (inv : Inventory) : Move → Happening
  | .arrange arrangement => .arranged arrangement
  | .ask request => .asked ⟨request, (serve request inv).answer⟩ (serve request inv).events

def after (inv : Inventory) (moves : List Move) : Inventory := moves.foldl move inv

/-- What happens if one thing after the other is done to an inventory. -/
def history (inv : Inventory) (moves : List Move) : List Happening := told move happening inv moves

/-- What keeps of an inventory with its history as something is done to it holds after everything
that is done to an empty one. -/
theorem history_induction {P : List Happening → Inventory → Prop} (hstart : P [] {})
    (hmove : ∀ history inv m, P history inv → P (history ++ [inv.happening m]) (inv.move m))
    (moves : List Move) : P (({} : Inventory).history moves) (({} : Inventory).after moves) :=
  told_induction hstart hmove moves

end Inventory

namespace Inventory

/-- The messages that wait for calls of an operation, in the order in which they are to be
delivered. -/
def messagesFor (operation : Operation) (faults : List (Operation × String)) : List String :=
  faults.filterMap fun fault => if fault.1 = operation then some fault.2 else none

lemma messagesFor_cons (operation operation' : Operation) (message : String)
    (faults : List (Operation × String)) :
    messagesFor operation ((operation', message) :: faults) =
      if operation' = operation then message :: messagesFor operation faults
      else messagesFor operation faults := by
  unfold messagesFor
  rw [List.filterMap_cons]
  split <;> simp_all

lemma takeFault_of_nil {operation : Operation} {faults : List (Operation × String)}
    (h : messagesFor operation faults = []) : takeFault operation faults = none := by
  induction faults with
  | nil => rfl
  | cons fault rest ih =>
    obtain ⟨operation', message⟩ := fault
    rw [messagesFor_cons] at h
    by_cases hsame : operation' = operation
    · rw [if_pos hsame] at h
      cases h
    · rw [if_neg hsame] at h
      rw [takeFault, if_neg hsame, ih h]
      rfl

/-- The fault that is taken is the first that waits for the operation, and the others go on
waiting. -/
lemma takeFault_of_cons {operation : Operation} {faults : List (Operation × String)}
    {message : String} {rest : List String}
    (h : messagesFor operation faults = message :: rest) :
    ∃ faults', takeFault operation faults = some (message, faults') ∧
      messagesFor operation faults' = rest ∧
      ∀ other, other ≠ operation → messagesFor other faults' = messagesFor other faults := by
  induction faults with
  | nil => cases h
  | cons fault tail ih =>
    obtain ⟨operation', message'⟩ := fault
    rw [messagesFor_cons] at h
    rw [takeFault]
    by_cases hsame : operation' = operation
    · rw [if_pos hsame] at h ⊢
      cases h
      refine ⟨tail, rfl, rfl, fun other hother => ?_⟩
      rw [messagesFor_cons, if_neg fun h => hother (h.symm.trans hsame)]
    · rw [if_neg hsame] at h ⊢
      obtain ⟨faults', htake, hrest, hothers⟩ := ih h
      refine ⟨(operation', message') :: faults', ?_, ?_, fun other hother => ?_⟩
      · rw [htake]
        rfl
      · rw [messagesFor_cons, if_neg hsame, hrest]
      · rw [messagesFor_cons, messagesFor_cons, hothers other hother]

/-- The messages that still wait for calls of an operation. -/
def waiting (inv : Inventory) (operation : Operation) : List String :=
  messagesFor operation inv.faults

variable {inv : Inventory} {request : Request}

lemma serve_of_stalled (h : request.call.operation ∈ inv.stalled) :
    serve request inv = { state := inv.record request.call, answer := none } := by
  unfold serve
  exact if_pos h

lemma serve_of_waiting (h : request.call.operation ∉ inv.stalled) {message : String}
    {rest : List String} (hwaiting : inv.waiting request.call.operation = message :: rest) :
    ∃ faults, serve request inv =
        { state := { inv.record request.call with faults }
          events := [.faultInjected request.call.operation message]
          answer := some (.error (.failed message)) } ∧
      messagesFor request.call.operation faults = rest ∧
      ∀ other, other ≠ request.call.operation → messagesFor other faults = inv.waiting other := by
  obtain ⟨faults, htake, hrest⟩ := takeFault_of_cons hwaiting
  refine ⟨faults, ?_, hrest⟩
  unfold serve
  dsimp only
  rw [if_neg h, htake]

lemma serve_of_idle (h : request.call.operation ∉ inv.stalled)
    (hwaiting : inv.waiting request.call.operation = []) :
    serve request inv =
      { state := (work request (inv.record request.call)).1
        answer := some (work request (inv.record request.call)).2 } := by
  unfold serve
  dsimp only
  rw [if_neg h, takeFault_of_nil hwaiting]

end Inventory

end ApiBalancer
