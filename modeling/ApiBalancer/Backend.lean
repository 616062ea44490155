import ApiBalancer.Endpoint
import ApiBalancer.NameMap

/-!
# Backends

A backend is one API server that the balancer forwards to. A `BackendSet` holds all of them at a
time; it is built in one go, and a change of membership makes a new set.
-/

namespace ApiBalancer

/-- One API server: the node's name, and the endpoint at which it answers. -/
structure Backend where
  name : String
  endpoint : String
deriving DecidableEq

/-- The API server of the node `name` at a host and port. -/
def Backend.reachable (name host : String) (port : UInt16) : Backend :=
  ⟨name, Endpoint.join host port⟩

/-- All backends of a balancer, by name. -/
structure BackendSet where
  byName : NameMap String
deriving DecidableEq

namespace BackendSet

/-- The set of a list of backends; of several with one name the last counts. -/
def ofList (l : List Backend) : BackendSet :=
  ⟨NameMap.ofList (l.map fun b => (b.name, b.endpoint))⟩

/-- Names and endpoints, in the order of the names. -/
def toList (s : BackendSet) : List (String × String) := s.byName.toList

def get? (s : BackendSet) (name : String) : Option String := s.byName.get? name

def size (s : BackendSet) : Nat := s.byName.size

def isEmpty (s : BackendSet) : Bool := s.byName.isEmpty

/-- The endpoints, in the order of the names. -/
def endpoints (s : BackendSet) : List String := s.byName.values

end BackendSet

end ApiBalancer
