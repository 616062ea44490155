import ApiBalancer.Backend
import ApiBalancer.Proofs.TextLines
import Mathlib.Data.List.Basic
import Mathlib.Data.List.Count

/-!
# Endpoints tell their addresses

An endpoint names a host and a port in one text, and any text may be a host. Behind the last colon of
an endpoint stands the port, and what stands in front of it is the host, in brackets exactly if it
holds a colon. So an endpoint can be read in one way only (`Endpoint.read?_join`), and backends at
different addresses have different endpoints (`Endpoint.tells_host_and_port`).
-/

namespace ApiBalancer

namespace Endpoint

/-- What stands in an endpoint in front of its last colon, and what behind it. -/
def cut? (endpoint : String) : Option (String × String) :=
  (Text.cutLast? ':' endpoint.toList).map fun cut => (String.ofList cut.1, String.ofList cut.2)

/-- A text without its first and last characters. -/
def unbracketed (part : String) : String := String.ofList part.toList.tail.dropLast

/-- Reads host and port off an endpoint. -/
def read? (endpoint : String) : Option (String × UInt16) := do
  let (part, digits) ← cut? endpoint
  let port ← digits.toNat?
  return (if ':' ∈ part.toList then unbracketed part else part, .ofNat port)

/-- What stands in an endpoint for the host. -/
def hostPart (host : String) : String := if ':' ∈ host.toList then "[" ++ host ++ "]" else host

lemma join_eq (host : String) (port : UInt16) :
    join host port = hostPart host ++ ":" ++ toString port.toNat := by
  unfold join hostPart
  split
  · rw [@String.append_assoc _ "]" ":"]
    rfl
  · rfl

lemma colon_mem_hostPart (host : String) : ':' ∈ (hostPart host).toList ↔ ':' ∈ host.toList := by
  unfold hostPart
  split
  · next hcolon =>
    rw [String.toList_append, String.toList_append]
    simp [hcolon]
  · rfl

lemma unbracketed_brackets (host : String) : unbracketed ("[" ++ host ++ "]") = host := by
  have hlist : ("[" ++ host ++ "]").toList = '[' :: (host.toList ++ [']']) := by
    rw [String.toList_append, String.toList_append]
    rfl
  rw [unbracketed, hlist, List.tail_cons, List.dropLast_concat, String.ofList_toList]

/-- An endpoint is cut between the host and the port, whatever colons there are in the host. -/
lemma cut?_join (host : String) (port : UInt16) :
    cut? (join host port) = some (hostPart host, toString port.toNat) := by
  have hlist : (join host port).toList =
      (hostPart host).toList ++ ':' :: (toString port.toNat).toList := by
    rw [join_eq, String.toList_append, String.toList_append, List.append_assoc]
    rfl
  rw [cut?, hlist, Text.cutLast?_append (Text.not_mem_toString (by decide) _), Option.map_some,
    String.ofList_toList, String.ofList_toList]

lemma read?_join (host : String) (port : UInt16) : read? (join host port) = some (host, port) := by
  have hport : (toString port.toNat).toNat? = some port.toNat := Nat.toNat?_repr port.toNat
  have hhost : (if ':' ∈ (hostPart host).toList then unbracketed (hostPart host)
      else hostPart host) = host := by
    simp only [colon_mem_hostPart]
    unfold hostPart
    split
    · exact unbracketed_brackets host
    · rfl
  simp only [read?, cut?_join, Option.bind_eq_bind, Option.bind_some, hport, hhost,
    UInt16.ofNat_toNat]
  rfl

lemma join_injective : Function.Injective2 join := by
  intro host host' port port' h
  have hread : read? (join host port) = read? (join host' port') := congrArg read? h
  rw [read?_join, read?_join] at hread
  exact Prod.mk.inj (Option.some.inj hread)

end Endpoint

namespace BackendSet

/-- The backends at the addresses of some nodes, each with its host and its port. -/
def reachable (nodes : List (String × String × UInt16)) : BackendSet :=
  ofList (nodes.map fun node => .reachable node.1 node.2.1 node.2.2)

lemma byName_reachable (nodes : List (String × String × UInt16)) :
    (reachable nodes).byName =
      (NameMap.ofList nodes).map (Function.uncurry Endpoint.join) := by
  rw [NameMap.map_ofList, reachable, ofList, List.map_map]
  rfl

lemma endpoints_reachable (nodes : List (String × String × UInt16)) :
    (reachable nodes).endpoints =
      (NameMap.ofList nodes).values.map (Function.uncurry Endpoint.join) := by
  rw [endpoints, byName_reachable, NameMap.values_map]

lemma get?_reachable (nodes : List (String × String × UInt16)) (name : String) :
    (reachable nodes).get? name =
      ((NameMap.ofList nodes).get? name).map (Function.uncurry Endpoint.join) := by
  rw [get?, byName_reachable, NameMap.get?_map]

lemma get?_reachable_eq_iff {nodes nodes' : List (String × String × UInt16)}
    {name name' : String} :
    (reachable nodes).get? name = (reachable nodes').get? name' ↔
      (NameMap.ofList nodes).get? name = (NameMap.ofList nodes').get? name' := by
  rw [get?_reachable, get?_reachable]
  exact (Option.map_injective Endpoint.join_injective.uncurry).eq_iff

lemma reachable_eq_iff {nodes nodes' : List (String × String × UInt16)} :
    reachable nodes = reachable nodes' ↔ NameMap.ofList nodes = NameMap.ofList nodes' := by
  constructor
  · intro h
    apply NameMap.ext_get?
    intro name
    exact get?_reachable_eq_iff.1 (congrArg (·.get? name) h)
  · intro h
    have hbyName : (reachable nodes).byName = (reachable nodes').byName := by
      rw [byName_reachable, byName_reachable, h]
    exact congrArg mk hbyName

end BackendSet

namespace Endpoint

open BackendSet

/-- An endpoint tells its host and its port. Cut at its last colon, it has the port in decimal digits
behind it; in front of it stands the host as it is if that part holds no colon, and else the host in
one pair of brackets. So both can be read back, and endpoints are the same only if hosts and ports
are. Of the backends at the addresses of some nodes, the endpoints by name, in the order of the names
and by how often they occur are the same only if the addresses are. -/
theorem tells_host_and_port :
    (∀ host port, ∃ part, cut? (join host port) = some (part, toString port.toNat) ∧
      if ':' ∈ part.toList then part = "[" ++ host ++ "]" else part = host) ∧
    (∀ host port, read? (join host port) = some (host, port)) ∧
    (∀ host port host' port', join host port = join host' port' ↔ host = host' ∧ port = port') ∧
    (∀ nodes nodes' : List (String × String × UInt16),
      let addresses := NameMap.ofList nodes
      let addresses' := NameMap.ofList nodes'
      (∀ name name', (reachable nodes).get? name = (reachable nodes').get? name' ↔
        addresses.get? name = addresses'.get? name') ∧
      ((reachable nodes).endpoints = (reachable nodes').endpoints ↔
        addresses.values = addresses'.values) ∧
      (reachable nodes = reachable nodes' ↔ addresses = addresses')) ∧
    ∀ (nodes : List (String × String × UInt16)) (host : String) (port : UInt16),
      (reachable nodes).endpoints.count (join host port) =
        (NameMap.ofList nodes).values.count (host, port) := by
  refine ⟨fun host port => ⟨hostPart host, cut?_join host port, ?_⟩, read?_join,
    fun host port host' port' => join_injective.eq_iff, fun nodes nodes' =>
      ⟨fun name name' => get?_reachable_eq_iff, ?_, reachable_eq_iff⟩, fun nodes host port => ?_⟩
  · simp only [colon_mem_hostPart]
    unfold hostPart
    split <;> rfl
  · rw [endpoints_reachable, endpoints_reachable]
    exact (List.map_injective_iff.2 join_injective.uncurry).eq_iff
  · rw [endpoints_reachable]
    exact List.count_map_of_injective _ _ join_injective.uncurry (host, port)

/-- A host that stands in brackets already, and one that carries a port. -/
example : cut? (join "[::1]" 80) = some ("[[::1]]", "80") ∧
    cut? (join "host:80" 81) = some ("[host:80]", "81") := by
  decide +kernel

end Endpoint

end ApiBalancer
