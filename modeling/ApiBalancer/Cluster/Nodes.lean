import ApiBalancer.Backend
import ApiBalancer.Balancer.Error
import ApiBalancer.Engine.Procedure

/-!
# The nodes of a cluster

Nodes are found by their labels. `Cluster.resolve` turns control-plane nodes into the complete set
of backends: it gives no set at all if one of them cannot be reached.
-/

namespace ApiBalancer.Cluster

/-- Puts a container in front of the first one with a name that is not smaller. -/
def insertByName (c : Container) : List Container → List Container
  | [] => [c]
  | d :: rest => if d.name < c.name then d :: insertByName c rest else c :: d :: rest

/-- The containers in the order of their names; those with one name keep their order. -/
def sortByName : List Container → List Container
  | [] => []
  | c :: rest => insertByName c (sortByName rest)

theorem perm_insertByName (c : Container) (l : List Container) :
    (insertByName c l).Perm (c :: l) := by
  induction l with
  | nil => exact List.Perm.refl _
  | cons d rest ih =>
    rw [insertByName]
    split
    · exact (ih.cons d).trans (List.Perm.swap c d rest)
    · exact List.Perm.refl _

theorem perm_sortByName (l : List Container) : (sortByName l).Perm l := by
  induction l with
  | nil => exact List.Perm.refl _
  | cons c rest ih => exact (perm_insertByName c _).trans (ih.cons c)

theorem pairwise_insertByName (c : Container) {l : List Container}
    (h : l.Pairwise fun a b => a.name ≤ b.name) :
    (insertByName c l).Pairwise fun a b => a.name ≤ b.name := by
  induction l with
  | nil => simp [insertByName]
  | cons d rest ih =>
    obtain ⟨hd, hrest⟩ := List.pairwise_cons.1 h
    rw [insertByName]
    split
    · next hlt =>
      refine List.pairwise_cons.2 ⟨fun e he => ?_, ih hrest⟩
      rcases List.mem_cons.1 ((perm_insertByName c rest).mem_iff.1 he) with rfl | he
      · exact String.not_lt.1 (String.lt_asymm hlt)
      · exact hd e he
    · next hlt =>
      refine List.pairwise_cons.2 ⟨fun e he => ?_, h⟩
      rcases List.mem_cons.1 he with rfl | he
      · exact String.not_lt.1 hlt
      · exact String.le_trans (String.not_lt.1 hlt) (hd e he)

theorem pairwise_sortByName (l : List Container) :
    (sortByName l).Pairwise fun a b => a.name ≤ b.name := by
  induction l with
  | nil => exact List.Pairwise.nil
  | cons c rest ih => exact pairwise_insertByName c ih

/-- The containers of a cluster that have a role, running or not, in the order of their names. -/
def nodes (cluster : String) (role : Role) : Procedure EngineError (List Container) := do
  let found ← Procedure.ask (.list (.nodes cluster role))
  let sorted := sortByName found
  Procedure.tell (.nodesFound cluster role sorted.length)
  return sorted

def controlPlane (cluster : String) : Procedure EngineError (List Container) :=
  nodes cluster .controlPlane

/-- The container of the cluster's balancer, if there is one. There should not be several; then it
is the first by name. -/
def balancer? (cluster : String) : Procedure EngineError (Option Container) := do
  let found ← nodes cluster .externalLoadBalancer
  if 1 < found.length then
    Procedure.tell (.severalBalancers cluster (found.map (·.name)))
  return found.head?

/-- The backends of some nodes at a port, each by its own look-up. The first node without an address
ends it. -/
def resolveEach (cluster : String) (port : UInt16) :
    List Container → Procedure BalancerError (List Backend)
  | [] => return []
  | node :: rest => do
    let address ← (Procedure.ask (.address node)).under (.cancelled .resolveNodes cluster)
      fun e => .unresolved cluster node.name (some e)
    if address.isEmpty then Procedure.fail (.unresolved cluster node.name none)
    else
      let others ← resolveEach cluster port rest
      return Backend.reachable node.name address port :: others

/-- The backends of all of some nodes. -/
def resolve (cluster : String) (nodes : List Container) (port : UInt16) :
    Procedure BalancerError BackendSet := do
  return BackendSet.ofList (← resolveEach cluster port nodes)

end ApiBalancer.Cluster
