import ApiBalancer.Engine.Inventory
import ApiBalancer.Proofs.InventoryRun
import ApiBalancer.Proofs.UpdateScript

/-!
# Resolving all nodes or none

The nodes of a cluster are looked up one after another. What comes of each look-up (`Cluster.Fate`)
is up to the engine and the cancellation. `Cluster.resolved_or_first_failure` says that there is a
set of backends exactly if every look-up finds an address, and what is left of the run otherwise.
-/

namespace ApiBalancer.Cluster

open Procedure

variable {σ : Type}

/-- What comes of looking up a node's address. -/
inductive Fate where
  | found (address : String)
  | failed (cause : EngineError)
  /-- The answer is an empty address. -/
  | empty
  /-- The cancellation had fired before, so that the look-up is not made. -/
  | leftOut
  /-- The cancellation fired while the look-up was under way. -/
  | givenUp
  /-- The engine never answers, and nothing ends the wait. -/
  | unanswered

/-- What comes of the look-up of a node after a number of other requests. -/
def fate (engine : Engine σ) (cancellation : Cancellation) (made : Nat) (s : σ)
    (node : Container) : Fate :=
  let answer := (engine.serve (.address node) s).answer
  if cancellation.firedBefore made then .leftOut
  else if cancellation.firesDuring made answer.isNone then .givenUp
  else
    match answer with
    | some (.ok address) => if address.isEmpty then .empty else .found address
    | some (.error e) => .failed e
    | none => .unanswered

/-- What comes of the look-ups of some nodes, if each is made after the one before it. -/
def fates (engine : Engine σ) (cancellation : Cancellation) : Nat → σ → List Container → List Fate
  | _, _, [] => []
  | made, s, node :: rest =>
    fate engine cancellation made s node ::
      fates engine cancellation (made + 1) (engine.serve (.address node) s).state rest

/-- How the resolution of a cluster's nodes ends at a node for which no address is found, with the
request that it has made for this node. -/
inductive Fate.Ends {α : Type} (cluster : String) (node : Container) :
    Fate → List Request → Ending BalancerError α → Prop
  | failed (e : EngineError) :
    Ends cluster node (.failed e) [.address node]
      (.finished (.error (.unresolved cluster node.name (some e))))
  | empty :
    Ends cluster node .empty [.address node]
      (.finished (.error (.unresolved cluster node.name none)))
  | leftOut :
    Ends cluster node .leftOut [] (.finished (.error (.cancelled .resolveNodes cluster)))
  | givenUp :
    Ends cluster node .givenUp [.address node]
      (.finished (.error (.cancelled .resolveNodes cluster)))
  | unanswered :
    Ends cluster node .unanswered [.address node]
      (.blocked (some (.cancelled .resolveNodes cluster)))

lemma length_fates (engine : Engine σ) (cancellation : Cancellation) (made : Nat) (s : σ)
    (nodes : List Container) : (fates engine cancellation made s nodes).length = nodes.length := by
  induction nodes generalizing made s with
  | nil => rfl
  | cons node rest ih => exact congrArg (· + 1) (ih _ _)

/-- What the error of a resolution that ends at a node shows its reader. -/
def Fate.Tells (cluster : String) (node : Container) (error : BalancerError) : Fate → Prop
  | .failed e =>
    error.message =
        "cannot resolve control-plane node " ++ node.name ++ " of cluster " ++ cluster ++ ": " ++
          e.message ∧
      error.causes = e.message :: e.causes
  | .empty =>
    error.message =
        "cannot resolve control-plane node " ++ node.name ++ " of cluster " ++ cluster ++ ": " ++
          "node has no IP address" ∧
      error.causes = []
  | .leftOut | .givenUp =>
    error.isCancelled = true ∧
      error.message = "resolve control-plane nodes cancelled for cluster " ++ cluster
  | .found _ | .unanswered => False

lemma Fate.Ends.tells {α : Type} {cluster : String} {node : Container} {fate : Fate}
    {requests : List Request} {ending : Ending BalancerError α} {error : BalancerError}
    (h : fate.Ends cluster node requests ending) (herror : ending = .finished (.error error)) :
    fate.Tells cluster node error := by
  cases h <;> cases herror <;> exact ⟨rfl, rfl⟩

lemma Fate.Ends.map {α β : Type} {cluster : String} {node : Container} {fate : Fate}
    {requests : List Request} {ending : Ending BalancerError α}
    (h : fate.Ends cluster node requests ending) (f : α → β) :
    fate.Ends cluster node requests (ending.map f) := by
  cases h with
  | failed e => exact .failed e
  | empty => exact .empty
  | leftOut => exact .leftOut
  | givenUp => exact .givenUp
  | unanswered => exact .unanswered

lemma Fate.Ends.ne_ok {α : Type} {cluster : String} {node : Container} {fate : Fate}
    {requests : List Request} {ending : Ending BalancerError α}
    (h : fate.Ends cluster node requests ending) (a : α) : ending ≠ .finished (.ok a) := by
  cases h <;> simp

/-- The first of some nodes for which no address is found: the nodes around it, and what comes of
the look-ups. -/
structure FirstMiss (nodes : List Container) (comes : List Fate) where
  before : List Container
  node : Container
  after : List Container
  addresses : List String
  fate : Fate
  others : List Fate
  nodes_eq : nodes = before ++ node :: after
  comes_eq : comes = addresses.map .found ++ fate :: others
  length_eq : addresses.length = before.length
  ne_found : ∀ address, fate ≠ .found address

/-- A node before all others, the address of which is found. -/
def FirstMiss.cons {nodes : List Container} {comes : List Fate} (miss : FirstMiss nodes comes)
    (node : Container) (address : String) :
    FirstMiss (node :: nodes) (.found address :: comes) where
  before := node :: miss.before
  node := miss.node
  after := miss.after
  addresses := address :: miss.addresses
  fate := miss.fate
  others := miss.others
  nodes_eq := congrArg (node :: ·) miss.nodes_eq
  comes_eq := congrArg (.found address :: ·) miss.comes_eq
  length_eq := congrArg (· + 1) miss.length_eq
  ne_found := miss.ne_found

lemma FirstMiss.mem_comes {nodes : List Container} {comes : List Fate}
    (miss : FirstMiss nodes comes) : miss.fate ∈ comes := by
  obtain ⟨_, _, _, addresses, fate, others, -, rfl, -, -⟩ := miss
  exact List.mem_append_right _ List.mem_cons_self

variable {engine : Engine σ} {cancellation : Cancellation} {cluster : String} {port : UInt16}

lemma resolveEach_cons (cluster : String) (port : UInt16) (node : Container)
    (rest : List Container) :
    resolveEach cluster port (node :: rest) =
      .call (.address node) (some (.cancelled .resolveNodes cluster)) fun
        | .ok address =>
          if address.isEmpty then .done (.error (.unresolved cluster node.name none))
          else (resolveEach cluster port rest).bind fun others =>
            .done (.ok (.reachable node.name address port :: others))
        | .error e => .done (.error (.unresolved cluster node.name (some e))) := by
  rw [resolveEach]
  refine congrArg (Procedure.call _ _) (funext fun x => ?_)
  cases x <;> rfl

lemma run_resolveEach_found {node : Container} (rest : List Container) {p : Progress σ}
    {address : String}
    (h : fate engine cancellation p.made.length p.engine node = .found address) :
    let others := (resolveEach cluster port rest).run engine cancellation
      (p.after (.address node) (engine.serve (.address node) p.engine))
    (resolveEach cluster port (node :: rest)).run engine cancellation p =
      (others.1, others.2.map (Backend.reachable node.name address port :: ·)) := by
  intro others
  unfold fate at h
  dsimp only at h
  split_ifs at h with hbefore hduring
  rw [resolveEach_cons, run, if_neg hbefore, if_neg hduring]
  revert h
  rcases hanswer : (engine.serve (.address node) p.engine).answer with _ | e | a
  · intro h
    cases h
  · intro h
    cases h
  · intro h
    dsimp only at h ⊢
    split_ifs at h with hempty
    cases h
    rw [if_neg hempty, run_bind_done]

lemma run_resolveEach_not_found {node : Container} (rest : List Container) {p : Progress σ}
    (h : ∀ address, fate engine cancellation p.made.length p.engine node ≠ .found address) :
    let run := (resolveEach cluster port (node :: rest)).run engine cancellation p
    ∃ requests, run.1.made = p.made ++ requests ∧
      (fate engine cancellation p.made.length p.engine node).Ends cluster node requests run.2 := by
  intro run
  have hrun : run = (resolveEach cluster port (node :: rest)).run engine cancellation p := rfl
  rw [resolveEach_cons, Procedure.run] at hrun
  unfold fate at h ⊢
  dsimp only at h hrun ⊢
  split_ifs at h hrun ⊢ with hbefore hduring
  · rw [hrun]
    exact ⟨[], (List.append_nil _).symm, .leftOut⟩
  · rw [hrun]
    exact ⟨_, rfl, .givenUp⟩
  · revert h hrun
    rcases (engine.serve (.address node) p.engine).answer with _ | e | a
    · intro h hrun
      rw [hrun]
      exact ⟨_, rfl, .unanswered⟩
    · intro h hrun
      rw [hrun]
      exact ⟨_, rfl, .failed e⟩
    · intro h hrun
      dsimp only at h hrun ⊢
      split_ifs at h hrun ⊢ with hempty
      · rw [hrun]
        exact ⟨_, rfl, .empty⟩
      · exact absurd rfl (h a)

lemma run_resolveEach (nodes : List Container) (p : Progress σ) :
    let comes := fates engine cancellation p.made.length p.engine nodes
    let run := (resolveEach cluster port nodes).run engine cancellation p
    (∃ addresses : List String, comes = addresses.map .found ∧
      run.1.made = p.made ++ nodes.map .address ∧
      run.2 = .finished (.ok (backendsAt nodes addresses port))) ∨
    ∃ (miss : FirstMiss nodes comes) (requests : List Request),
      miss.fate.Ends cluster miss.node requests run.2 ∧
      run.1.made = p.made ++ miss.before.map .address ++ requests := by
  induction nodes generalizing p with
  | nil => exact .inl ⟨[], rfl, (List.append_nil _).symm, rfl⟩
  | cons node rest ih =>
    intro comes run
    by_cases hfate : ∃ address,
        fate engine cancellation p.made.length p.engine node = .found address
    · obtain ⟨address, hfate⟩ := hfate
      have hlength : (p.after (.address node)
          (engine.serve (.address node) p.engine)).made.length = p.made.length + 1 := by
        simp [Progress.after]
      have hcomes : comes = .found address :: fates engine cancellation (p.made.length + 1)
          (engine.serve (.address node) p.engine).state rest := congrArg (· :: _) hfate
      have hrun : run = _ := run_resolveEach_found rest hfate
      have hrest := ih (p.after (.address node) (engine.serve (.address node) p.engine))
      rw [hlength] at hrest
      rw [hcomes, hrun]
      obtain ⟨addresses, hfound, hmade, hend⟩ | ⟨miss, requests, hends, hmade⟩ := hrest
      · refine .inl ⟨address :: addresses, congrArg (_ :: ·) hfound, ?_, ?_⟩
        · exact hmade.trans (List.append_cons _ _ _).symm
        · rw [hend]
          rfl
      · refine .inr ⟨miss.cons node address, requests, hends.map _, ?_⟩
        rw [hmade]
        simp [Progress.after, FirstMiss.cons]
    · have hmissed : ∀ address,
          fate engine cancellation p.made.length p.engine node ≠ .found address :=
        fun address h => hfate ⟨address, h⟩
      obtain ⟨requests, hmade, hends⟩ :=
        run_resolveEach_not_found rest hmissed
      refine .inr ⟨⟨[], node, rest, [], _, _, rfl, rfl, rfl, hmissed⟩, requests, hends, ?_⟩
      simpa using hmade

/-- The endpoint that a node of some name has by the last address found for it. -/
def lastEndpoint? (nodes : List Container) (addresses : List String) (port : UInt16)
    (name : String) : Option String :=
  (((nodes.map (·.name)).zip addresses).reverse.lookup name).map (Endpoint.join · port)

lemma get?_backendsAt (nodes : List Container) (addresses : List String) (port : UInt16)
    (name : String) :
    (BackendSet.ofList (backendsAt nodes addresses port)).get? name =
      lastEndpoint? nodes addresses port name := by
  have hentries : (backendsAt nodes addresses port).map (fun b => (b.name, b.endpoint)) =
      ((nodes.map (·.name)).zip addresses).map fun e => (e.1, Endpoint.join e.2 port) := by
    rw [backendsAt, List.map_zipWith, List.zip_map_left, List.map_map, List.zip, List.map_zipWith]
    rfl
  unfold BackendSet.get? BackendSet.ofList
  rw [NameMap.get?_ofList, hentries, ← List.map_reverse]
  exact NameMap.lookup_map (Endpoint.join · port) _ name

lemma isSome_lastEndpoint? {nodes : List Container} {addresses : List String}
    (h : addresses.length = nodes.length) (port : UInt16) (name : String) :
    (lastEndpoint? nodes addresses port name).isSome ↔ name ∈ nodes.map (·.name) := by
  have hkeys : ((nodes.map (·.name)).zip addresses).map (·.1) = nodes.map (·.name) :=
    List.map_fst_zip (by simp [h])
  have hmem : name ∈ nodes.map (·.name) ↔
      ∃ e ∈ (nodes.map (·.name)).zip addresses, e.1 = name := by
    rw [← List.mem_map, hkeys]
  unfold lastEndpoint?
  rw [Option.isSome_map, List.lookup_isSome_iff, hmem]
  simp

/-- **All nodes or none.** The nodes of a cluster are resolved to a set of backends exactly if the
look-up of each of them is reached before the cancellation has fired and finds an address. The set
then holds the nodes' names and no others, each with the endpoint that the last address found for
it makes. Otherwise the look-ups are made in the order of the nodes up to the first that finds no
address, and the error tells of this node; its own look-up is left out only if the cancellation had
fired before. -/
theorem resolved_or_first_failure (engine : Engine σ) (cancellation : Cancellation)
    (cluster : String) (nodes : List Container) (port : UInt16) (p : Progress σ) :
    let comes := fates engine cancellation p.made.length p.engine nodes
    let run := (resolve cluster nodes port).run engine cancellation p
    ((∃ set, run.2 = .finished (.ok set)) ↔ ∀ fate ∈ comes, ∃ address, fate = .found address) ∧
    (∀ set, run.2 = .finished (.ok set) → ∃ addresses : List String,
      comes = addresses.map .found ∧
      run.1.made = p.made ++ nodes.map .address ∧
      (∀ name, (set.get? name).isSome ↔ name ∈ nodes.map (·.name)) ∧
      ∀ name, set.get? name = lastEndpoint? nodes addresses port name) ∧
    ((∀ set, run.2 ≠ .finished (.ok set)) →
      ∃ (miss : FirstMiss nodes comes) (requests : List Request),
        miss.fate.Ends cluster miss.node requests run.2 ∧
        run.1.made = p.made ++ miss.before.map .address ++ requests ∧
        ∀ error, run.2 = .finished (.error error) → miss.fate.Tells cluster miss.node error) := by
  intro comes run
  have hcomes : comes.length = nodes.length := length_fates _ _ _ _ _
  have hresolve : run = _ := run_bind_done engine cancellation (resolveEach cluster port nodes)
    BackendSet.ofList p
  rw [hresolve]
  obtain ⟨addresses, hfound, hmade, hend⟩ | ⟨miss, requests, hends, hmade⟩ :=
    run_resolveEach nodes p
  · have hlength : addresses.length = nodes.length := by
      rw [← hcomes, show comes = _ from hfound, List.length_map]
    rw [hend]
    refine ⟨⟨fun _ fate hfate => ?_, fun _ => ⟨_, rfl⟩⟩, fun set hok => ?_,
      fun hno => (hno _ rfl).elim⟩
    · rw [show comes = _ from hfound] at hfate
      obtain ⟨address, -, hfate⟩ := List.mem_map.1 hfate
      exact ⟨address, hfate.symm⟩
    · cases hok
      refine ⟨addresses, hfound, hmade, fun name => ?_, fun name => get?_backendsAt _ _ _ name⟩
      rw [get?_backendsAt]
      exact isSome_lastEndpoint? hlength port name
  · have hends' := hends.map BackendSet.ofList
    refine ⟨⟨fun ⟨set, hok⟩ => (hends'.ne_ok set hok).elim, fun hall => ?_⟩,
      fun set hok => (hends'.ne_ok set hok).elim, fun _ => ?_⟩
    · obtain ⟨address, hfate⟩ := hall _ miss.mem_comes
      exact (miss.ne_found address hfate).elim
    · exact ⟨miss, requests, hends', hmade, fun error herror => hends'.tells herror⟩

lemma run_resolve_fired (node : Container) (rest : List Container) {p : Progress σ}
    (h : cancellation.firedBefore p.made.length = true) :
    (resolve cluster (node :: rest) port).run engine cancellation p =
      (p, .finished (.error (.cancelled .resolveNodes cluster))) := by
  refine (run_bind_done engine cancellation _ BackendSet.ofList p).trans ?_
  rw [resolveEach_cons, Procedure.run, if_pos h]
  rfl

/-- A resolution that is cancelled need not have looked up the node at which it ends: once the
cancellation has fired, no look-up is made. -/
theorem no_look_up_once_cancelled :
    let node := Container.node "a" "demo" .controlPlane
    let run := (resolve "demo" [node] Endpoint.controlPlanePort).run Inventory.engine (.before 0)
      { engine := Inventory.add {} node "10.0.0.1" }
    (∀ set, run.2 ≠ .finished (.ok set)) ∧
      ¬∃ before cut after, [node] = before ++ cut :: after ∧
        run.1.made = (before ++ [cut]).map .address := by
  intro node run
  have hrun : run = _ := run_resolve_fired node [] rfl
  rw [hrun]
  refine ⟨fun set h => (by cases h), ?_⟩
  rintro ⟨before, cut, after, -, hmade⟩
  simp at hmade

end ApiBalancer.Cluster
