import ApiBalancer.Balancer.Basic

/-!
# The fleet

A `Fleet` keeps one balancer for each cluster that it is asked about. A balancer is looked up when
its cluster is first needed, and kept until the cluster is forgotten. This file runs tasks one
after another; `ApiBalancer.Fleet.Concurrent` runs them beside each other.
-/

namespace ApiBalancer

structure Fleet where
  plan : Plan := {}
  /-- The tracked clusters, with their balancers as far as they have been looked up. -/
  slots : NameMap (Option Balancer) := ∅

namespace Fleet

/-- The tracked clusters, in the order of their names. -/
def clusters (fleet : Fleet) : List String := fleet.slots.keys

def tracks (fleet : Fleet) (cluster : String) : Bool := fleet.slots.contains cluster

/-- The balancer of a cluster, if it has been looked up. -/
def balancer? (fleet : Fleet) (cluster : String) : Option Balancer :=
  (fleet.slots.get? cluster).join

def track (fleet : Fleet) (cluster : String) : Fleet :=
  if fleet.tracks cluster then fleet
  else { fleet with slots := fleet.slots.insert cluster none }

def keep (fleet : Fleet) (cluster : String) (b : Balancer) : Fleet :=
  { fleet with slots := fleet.slots.insert cluster (some b) }

def forget (fleet : Fleet) (cluster : String) : Fleet :=
  { fleet with slots := fleet.slots.erase cluster }

def forgetEvents (fleet : Fleet) (cluster : String) : List Event :=
  if fleet.tracks cluster then [.forgotten cluster] else []

variable {σ : Type}

/-- Carries out a task of a balancer that has been looked up. The image that its cluster asks for
now is taken over first, and stays taken over however the task ends. -/
def serve (engine : Engine σ) (cancellation : Cancellation) (spec : ClusterSpec)
    (task : Balancer.Task) (fleet : Fleet) (b : Balancer) (p : Progress σ) :
    Fleet × Progress σ × Ending BalancerError Balancer.Answer :=
  let image := spec.resolveImage fleet.plan.image
  let ready := b.withImage image
  let fleet := fleet.keep spec.name ready
  match (ready.perform fleet.plan task).run engine cancellation
      (p.tellAll (b.imageEvents image)) with
  | (p, .finished (.ok (b', answer))) => (fleet.keep spec.name b', p, .finished (.ok answer))
  | (p, .finished (.error e)) => (fleet, p, .finished (.error e))
  | (p, .blocked ifCancelled) => (fleet, p, .blocked ifCancelled)

/-- Carries out a task for a cluster, whose balancer is looked up if it has not been. -/
def perform (engine : Engine σ) (cancellation : Cancellation) (spec : ClusterSpec)
    (task : Balancer.Task) (fleet : Fleet) (state : σ) :
    Fleet × Progress σ × Ending BalancerError Balancer.Answer :=
  let fleet := fleet.track spec.name
  let start : Progress σ := { engine := state }
  match fleet.balancer? spec.name with
  | some b => fleet.serve engine cancellation spec task b start
  | none =>
    match (Balancer.lookUp fleet.plan spec).run engine cancellation start with
    | (p, .finished (.ok b)) => fleet.serve engine cancellation spec task b p
    | (p, .finished (.error e)) => (fleet, p, .finished (.error e))
    | (p, .blocked ifCancelled) => (fleet, p, .blocked ifCancelled)

end Fleet

end ApiBalancer
