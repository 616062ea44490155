import ApiBalancer.Engine.Request
import ApiBalancer.ProxyDocument

/-!
# Errors of a balancer

Every error names the cluster. A failed request also says which step made it and for which
container.
-/

namespace ApiBalancer

/-- The steps of a balancer's operations that make requests. -/
inductive Step where
  | discoverBalancer
  | createBalancer
  | discoverNodes
  | resolveNodes
  | writeDocument
  | reload
  | readAddress
  | deleteBalancer
deriving DecidableEq, Repr

def Step.text : Step → String
  | discoverBalancer => "discover load balancer"
  | createBalancer => "create load balancer"
  | discoverNodes => "discover control-plane nodes"
  | resolveNodes => "resolve control-plane nodes"
  | writeDocument => "write load balancer config"
  | reload => "reload load balancer"
  | readAddress => "read load balancer address"
  | deleteBalancer => "delete load balancer"

/-- Why an operation of a balancer did not succeed. -/
inductive BalancerError where
  | unnamedCluster
  | notProvisioned (cluster : String)
  /-- The balancer's container has no address, most likely because it is stopped. -/
  | noAddress (cluster container : String)
  /-- A control-plane node cannot be reached: its address could not be looked up, or, without a
  cause, it has none. -/
  | unresolved (cluster node : String) (cause : Option EngineError)
  | engine (step : Step) (cluster container : String) (cause : EngineError)
  | rejected (cluster : String) (cause : InvalidBackend)
  | cancelled (step : Step) (cluster : String)
deriving DecidableEq

namespace BalancerError

/-- Whether the operation needs a container that is not there. -/
def isNotProvisioned : BalancerError → Bool
  | notProvisioned _ => true
  | _ => false

def isCancelled : BalancerError → Bool
  | cancelled _ _ => true
  | _ => false

def message : BalancerError → String
  | unnamedCluster => "invalid argument: create load balancer: cluster name is empty"
  | notProvisioned cluster => "load balancer for cluster " ++ cluster ++ " is not provisioned"
  | noAddress cluster container =>
    "load balancer IP cannot be empty: container " ++ container ++ " of cluster " ++ cluster ++
      " does not have an associated IP address"
  | unresolved cluster node cause =>
    "cannot resolve control-plane node " ++ node ++ " of cluster " ++ cluster ++ ": " ++
      match cause with
      | some e => e.message
      | none => "node has no IP address"
  | engine step cluster container cause =>
    step.text ++ " failed for cluster " ++ cluster ++ " (container " ++ container ++ "): " ++
      cause.message
  | rejected cluster cause =>
    "failed to render load balancer config for cluster " ++ cluster ++ ": " ++ cause.message
  | cancelled step cluster => step.text ++ " cancelled for cluster " ++ cluster

/-- The texts of the errors behind this one, the nearest first. -/
def causes : BalancerError → List String
  | engine _ _ _ cause | unresolved _ _ (some cause) => cause.message :: cause.causes
  | rejected _ cause => [cause.message]
  | _ => []

end BalancerError

end ApiBalancer
