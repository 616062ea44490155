import ApiBalancer.Proofs.InventoryHistory
import ApiBalancer.Proofs.Requests
import Mathlib.Algebra.Ring.Nat

/-!
# Injected faults and the log of calls

A fault that is put in line for an operation meets the next call of that operation which is not
stalled, and no other call. What has been put in line is what has been delivered, in the same order,
followed by what still waits. The log holds every call, however it ended. `faults_meet_their_calls`
says so of every inventory that was empty at the start.
-/

namespace ApiBalancer

namespace Happening

/-- The call that is made. -/
def called? : Happening → Option Call
  | .asked x _ => some x.request.call
  | .arranged _ => none

/-- The message of the fault that is put in line for calls of an operation. -/
def queued? (operation : Operation) : Happening → Option String
  | .arranged (.failNext operation' message) =>
    if operation' = operation then some message else none
  | _ => none

/-- The message that a call of an operation fails with because of a fault that has been in line. -/
def delivered? (operation : Operation) : Happening → Option String
  | .asked ⟨request, some (.error (.failed message))⟩ [.faultInjected operation' message'] =>
    if request.call.operation = operation ∧ operation' = operation ∧ message' = message then
      some message
    else none
  | _ => none

/-- Whether calls of an operation go without an answer from now on. -/
def stalls? (operation : Operation) : Happening → Option Bool
  | .arranged (.stall operation') => if operation' = operation then some true else none
  | .arranged (.unstall operation') => if operation' = operation then some false else none
  | _ => none

/-- What look-ups of a container's address fail with from now on, if they are to fail. -/
def addressFault? (name : String) : Happening → Option (Option String)
  | .arranged (.failAddress name' message) => if name' = name then some (some message) else none
  | .arranged (.clearAddressFault name') => if name' = name then some none else none
  | _ => none

end Happening

namespace Inventory

/-- Whether calls of an operation are stalled; at the start none are. -/
def stalledBy (history : List Happening) (operation : Operation) : Bool :=
  (lastOf (Happening.stalls? operation) history).getD false

/-- The fault of look-ups of a container's address; at the start they have none. -/
def addressFaultBy (history : List Happening) (name : String) : Option String :=
  (lastOf (Happening.addressFault? name) history).getD none

variable {inv : Inventory} {history : List Happening} {request : Request}

lemma mem_stalled_move (operation : Operation) (inv : Inventory) (m : Move) :
    decide (operation ∈ (inv.move m).stalled) =
      ((inv.happening m).stalls? operation).getD (decide (operation ∈ inv.stalled)) := by
  cases m with
  | ask request =>
    change decide (operation ∈ (serve request inv).state.stalled) = _
    rw [(serve_follows request inv).stalled]
    rfl
  | arrange a =>
    cases a with
    | stall operation' =>
      by_cases hsame : operation' = operation
      · simp [move, happening, arrange, stall, Happening.stalls?, hsame]
      · simp [move, happening, arrange, stall, Happening.stalls?, hsame, Ne.symm hsame]
    | unstall operation' =>
      by_cases hsame : operation' = operation
      · simp [move, happening, arrange, unstall, Happening.stalls?, hsame]
      · simp [move, happening, arrange, unstall, Happening.stalls?, hsame, Ne.symm hsame]
    | _ => rfl

lemma addressFaults_move (name : String) (inv : Inventory) (m : Move) :
    (inv.move m).addressFaults.get? name =
      ((inv.happening m).addressFault? name).getD (inv.addressFaults.get? name) := by
  cases m with
  | ask request =>
    change (serve request inv).state.addressFaults.get? name = _
    rw [(serve_follows request inv).addressFaults]
    rfl
  | arrange a =>
    cases a with
    | failAddress name' message =>
      by_cases hsame : name' = name
      · simp [move, happening, arrange, failAddress, Happening.addressFault?, hsame]
      · simp [move, happening, arrange, failAddress, Happening.addressFault?, hsame,
          NameMap.get?_insert, Ne.symm hsame]
    | clearAddressFault name' =>
      by_cases hsame : name' = name
      · simp [move, happening, arrange, clearAddressFault, Happening.addressFault?, hsame,
          NameMap.get?_erase]
      · simp [move, happening, arrange, clearAddressFault, Happening.addressFault?, hsame,
          NameMap.get?_erase, Ne.symm hsame]
    | _ => rfl

lemma stalledBy_history (moves : List Move) (operation : Operation) :
    stalledBy (({} : Inventory).history moves) operation =
      decide (operation ∈ (({} : Inventory).after moves).stalled) :=
  (setting_told (fun inv : Inventory => decide (operation ∈ inv.stalled))
    (mem_stalled_move operation) {} moves).symm

lemma addressFaultBy_history (moves : List Move) (name : String) :
    addressFaultBy (({} : Inventory).history moves) name =
      (({} : Inventory).after moves).addressFaults.get? name :=
  (setting_told (fun inv : Inventory => inv.addressFaults.get? name)
    (addressFaults_move name) {} moves).symm

/-! ### Faults in line -/

lemma change_faults (inv : Inventory) (name : String) (f : Entry → Except EngineError Entry) :
    (inv.change name f).1.faults = inv.faults := by
  unfold change
  split
  · rfl
  · split <;> rfl

lemma work_faults (request : Request) (inv : Inventory) :
    (work request inv).1.faults = inv.faults := by
  cases request with
  | create launch =>
    simp only [work]
    split <;> rfl
  | list query => rfl
  | address container =>
    simp only [work]
    split <;> rfl
  | writeFile container path content => exact change_faults inv _ _
  | signal container signal => exact change_faults inv _ _
  | reload container => exact change_faults inv _ _
  | delete container =>
    simp only [work]
    split <;> rfl

/-- How an inventory takes a request, as the request's operation is stalled, has faults in line or
neither. Only the operation's first fault can go. -/
structure Takes (inv : Inventory) (isStalled : Bool) (request : Request) : Prop where
  stalled : isStalled = true → (serve request inv).answer = none ∧ (serve request inv).events = [] ∧
    ∀ other, (serve request inv).state.waiting other = inv.waiting other
  faulted : isStalled = false → ∀ message rest,
    inv.waiting request.call.operation = message :: rest →
    (serve request inv).answer = some (.error (.failed message)) ∧
    (serve request inv).events = [.faultInjected request.call.operation message] ∧
    (serve request inv).state.waiting request.call.operation = rest ∧
    ∀ other, other ≠ request.call.operation →
      (serve request inv).state.waiting other = inv.waiting other
  served : isStalled = false → inv.waiting request.call.operation = [] →
    (serve request inv).answer = some (work request (inv.record request.call)).2 ∧
    (serve request inv).events = [] ∧
    ∀ other, (serve request inv).state.waiting other = inv.waiting other

lemma takes (inv : Inventory) (request : Request) :
    inv.Takes (decide (request.call.operation ∈ inv.stalled)) request := by
  refine ⟨fun hstalled => ?_, fun hopen message rest hwaiting => ?_, fun hopen hidle => ?_⟩
  · rw [serve_of_stalled (of_decide_eq_true hstalled)]
    exact ⟨rfl, rfl, fun other => rfl⟩
  · obtain ⟨faults, hserve, hrest, hothers⟩ :=
      serve_of_waiting (of_decide_eq_false hopen) hwaiting
    rw [hserve]
    exact ⟨rfl, rfl, hrest, hothers⟩
  · rw [serve_of_idle (of_decide_eq_false hopen) hidle]
    refine ⟨rfl, rfl, fun other => ?_⟩
    unfold waiting
    rw [work_faults]
    rfl

lemma waiting_failNext (inv : Inventory) (operation operation' : Operation) (message : String) :
    (inv.failNext operation' message).waiting operation =
      inv.waiting operation ++ if operation' = operation then [message] else [] := by
  unfold waiting failNext messagesFor
  rw [List.filterMap_append]
  congr 1
  split <;> simp_all

lemma delivered?_silent (operation : Operation) (x : Exchange) :
    Happening.delivered? operation (.asked x []) = none := by
  obtain ⟨request, _ | cause | a⟩ := x
  · rfl
  · cases cause <;> rfl
  · rfl

lemma waiting_move (operation : Operation) (inv : Inventory) (m : Move) :
    inv.waiting operation ++ ((inv.happening m).queued? operation).toList =
      ((inv.happening m).delivered? operation).toList ++ (inv.move m).waiting operation := by
  cases m with
  | arrange a =>
    cases a with
    | failNext operation' message =>
      change inv.waiting operation ++ _ = [] ++ (inv.failNext operation' message).waiting operation
      rw [waiting_failNext, List.nil_append]
      by_cases hsame : operation' = operation
      · simp [happening, Happening.queued?, hsame]
      · simp [happening, Happening.queued?, hsame]
    | _ => exact List.append_nil _
  | ask request =>
    have htakes := inv.takes request
    change inv.waiting operation ++ [] =
      (Happening.delivered? operation (.asked ⟨request, (serve request inv).answer⟩
        (serve request inv).events)).toList ++ (serve request inv).state.waiting operation
    rw [List.append_nil]
    by_cases hstalled : request.call.operation ∈ inv.stalled
    · obtain ⟨-, hevents, hwaiting⟩ := htakes.stalled (decide_eq_true hstalled)
      rw [hevents, hwaiting, delivered?_silent]
      rfl
    have hopen := decide_eq_false hstalled
    cases hline : inv.waiting request.call.operation with
    | nil =>
      obtain ⟨-, hevents, hwaiting⟩ := htakes.served hopen hline
      rw [hevents, hwaiting, delivered?_silent]
      rfl
    | cons message rest =>
      obtain ⟨hanswer, hevents, hrest, hothers⟩ := htakes.faulted hopen message rest hline
      rw [hanswer, hevents]
      by_cases hsame : request.call.operation = operation
      · subst hsame
        rw [hrest, hline]
        simp [Happening.delivered?]
      · rw [hothers operation (Ne.symm hsame)]
        simp [Happening.delivered?, hsame]

/-- Every fault that has come into line has been delivered, in turn, or still waits. -/
theorem queued_eq (moves : List Move) (operation : Operation) :
    (({} : Inventory).history moves).filterMap (Happening.queued? operation) =
      (({} : Inventory).history moves).filterMap (Happening.delivered? operation) ++
        (({} : Inventory).after moves).waiting operation := by
  refine history_induction
    (P := fun history inv => history.filterMap (Happening.queued? operation) =
      history.filterMap (Happening.delivered? operation) ++ inv.waiting operation) rfl ?_ moves
  intro history inv m ih
  have hone : ∀ given : Happening → Option String,
      [inv.happening m].filterMap given = (given (inv.happening m)).toList := by
    intro given
    cases h : given (inv.happening m) <;> simp [h]
  rw [List.filterMap_append, List.filterMap_append, hone, hone, ih, List.append_assoc,
    List.append_assoc, waiting_move]

/-- Whether these are the calls that have been made since the log was last emptied. -/
def LoggedIn (history : List Happening) (calls : List Call) : Prop :=
  ∃ before since, history = before ++ since ∧
    (before = [] ∨ ∃ earlier, before = earlier ++ [.arranged .clearCalls]) ∧
    .arranged .clearCalls ∉ since ∧ calls = since.filterMap Happening.called?

lemma loggedIn_concat {calls : List Call} (h : LoggedIn history calls) {d : Happening}
    (hd : d ≠ .arranged .clearCalls) :
    LoggedIn (history ++ [d]) (calls ++ d.called?.toList) := by
  obtain ⟨before, since, rfl, hbefore, hsince, rfl⟩ := h
  refine ⟨before, since ++ [d], by rw [List.append_assoc], hbefore, ?_, ?_⟩
  · rw [List.mem_append, List.mem_singleton]
    rintro (hmem | heq)
    · exact hsince hmem
    · exact hd heq.symm
  · rw [List.filterMap_append]
    cases hcall : d.called? <;> simp [hcall]

/-- The log holds the calls made since it was last emptied, whatever has come of them. -/
theorem loggedIn_after (moves : List Move) :
    LoggedIn (({} : Inventory).history moves) (({} : Inventory).after moves).calls := by
  refine history_induction (P := fun history inv => LoggedIn history inv.calls) ?_ ?_ moves
  · exact ⟨[], [], rfl, .inl rfl, List.not_mem_nil, rfl⟩
  intro history inv m ih
  cases m with
  | ask request =>
    change LoggedIn _ (serve request inv).state.calls
    rw [(serve_follows request inv).calls]
    exact loggedIn_concat ih nofun
  | arrange a =>
    cases a with
    | clearCalls =>
      exact ⟨history ++ [.arranged .clearCalls], [], (List.append_nil _).symm, .inr ⟨history, rfl⟩,
        List.not_mem_nil, rfl⟩
    | _ =>
      change LoggedIn _ inv.calls
      rw [← List.append_nil inv.calls]
      exact loggedIn_concat ih nofun

lemma sum_count (inv : Inventory) : (Operation.all.map inv.count).sum = inv.calls.length := by
  unfold count
  induction inv.calls with
  | nil => rfl
  | cons call rest ih =>
    simp only [Operation.all, List.map_cons, List.map_nil, List.sum_cons, List.sum_nil,
      List.countP_cons, List.length_cons] at ih ⊢
    cases call.operation <;> simp only [beq_iff_eq, reduceCtorEq, if_true, if_false] <;> omega

/-- An address look-up that is neither stalled nor meets a fault in line fails if the container's
look-ups are to fail, and is else answered from the table. -/
lemma serve_address (c : Container) (hopen : .address ∉ inv.stalled)
    (hidle : inv.waiting .address = []) :
    (serve (.address c) inv).answer = some
      (match inv.addressFaults.get? c.name with
      | some message => .error (.failed message)
      | none =>
        match inv.addressOf? c.name with
        | some address => .ok address
        | none => .error (.notFound c.name)) := by
  rw [serve_of_idle hopen hidle]
  change some (work (.address c) (inv.record (.address c.name))).2 = _
  have hfault : (inv.record (.address c.name)).addressFaults.get? c.name =
      inv.addressFaults.get? c.name := rfl
  have haddress : (inv.record (.address c.name)).addressOf? c.name = inv.addressOf? c.name := rfl
  simp only [work, hfault, haddress]
  cases inv.addressFaults.get? c.name with
  | some message => rfl
  | none => cases inv.addressOf? c.name <;> rfl

/-- Whatever has been done to an inventory that was empty at the start: the log holds the calls made
since it was last emptied, in their order, and every request is added to it once, whatever comes of
it. The messages put in line for an operation are those that have been delivered to its calls, in
the same order, and those that still wait. The next call of the operation meets the first of them
and takes it away, unless the operation is stalled; a stalled call takes none, and no call takes one
that waits for another operation. A call that meets none is served, but look-ups of an address fail
as long as that container's are to fail. The counts of calls are the lengths of their lists and add
up to the log. -/
theorem faults_meet_their_calls (moves : List Move) :
    let inv := ({} : Inventory).after moves
    let history := ({} : Inventory).history moves
    LoggedIn history inv.calls ∧
    (∀ request, (serve request inv).state.calls = inv.calls ++ [request.call]) ∧
    (∀ operation, history.filterMap (Happening.queued? operation) =
      history.filterMap (Happening.delivered? operation) ++ inv.waiting operation) ∧
    (∀ request, inv.Takes (stalledBy history request.call.operation) request) ∧
    (∀ c : Container, stalledBy history .address = false → inv.waiting .address = [] →
      (serve (.address c) inv).answer = some
        (match addressFaultBy history c.name with
        | some message => .error (.failed message)
        | none =>
          match inv.addressOf? c.name with
          | some address => .ok address
          | none => .error (.notFound c.name))) ∧
    (∀ operation, inv.count operation = (inv.callsOf operation).length) ∧
    (Operation.all.map inv.count).sum = inv.calls.length := by
  intro inv history
  refine ⟨loggedIn_after moves, fun request => (serve_follows request inv).calls,
    queued_eq moves, fun request => ?_, fun c hopen hidle => ?_,
    fun operation => List.countP_eq_length_filter, inv.sum_count⟩
  · rw [stalledBy_history]
    exact inv.takes request
  · rw [stalledBy_history] at hopen
    rw [addressFaultBy_history]
    exact serve_address c (of_decide_eq_false hopen) hidle

end Inventory

end ApiBalancer
