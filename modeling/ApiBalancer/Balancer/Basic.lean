import ApiBalancer.Cluster.Nodes
import ApiBalancer.Renderer

/-!
# Balancers

A `Balancer` looks after the container in front of one cluster's API servers. The container is
either absent or attached:

* `create` attaches a new one,
* `update` and `address` work on the attached one,
* `delete` removes it.

What a balancer holds changes only with an answer of the engine that confirms it, so a failed or
cancelled operation can simply be repeated.
-/

namespace ApiBalancer

/-- What the balancers of all clusters share. -/
structure Plan where
  renderer : Renderer := .proxy
  image : ImageSource := {}
  options : DocumentOptions := {}

def Plan.ofSettings (settings : Settings) : Plan :=
  { image := settings.image, options := .ofSettings settings.document }

/-- What looks after one cluster's container. -/
structure Balancer where
  cluster : String
  /-- The image that a container is, or will be, created from. -/
  image : String
  container : Option Container
deriving DecidableEq

structure Status where
  cluster : String
  container : String
  image : String
  provisioned : Bool
deriving DecidableEq

/-- What an update has put into force. -/
structure Rollout where
  backends : BackendSet
  /-- The size of the document. -/
  bytes : Nat
deriving DecidableEq

namespace Balancer

/-- The name under which a cluster's container is created. -/
def containerName (b : Balancer) : String := b.cluster ++ "-lb"

def isProvisioned (b : Balancer) : Bool := b.container.isSome

/-- The balancer's state, for reporting. It takes no request. -/
def status (b : Balancer) : Status where
  cluster := b.cluster
  container := match b.container with
    | some c => c.name
    | none => b.containerName
  image := b.image
  provisioned := b.isProvisioned

def shown (b : Balancer) : String :=
  Text.shownPart "LoadBalancer"
    [("cluster", Text.quote b.cluster), ("image", Text.quote b.image),
      ("container", Text.shownOption (b.container.map Container.shown))]

/-- A piece of work on the engine as one step for a cluster: it can be cancelled, and what goes
wrong is told with the step and the container concerned. -/
def step {α : Type} (step : Step) (cluster container : String)
    (work : Procedure EngineError α) : Procedure BalancerError α :=
  work.under (.cancelled step cluster) fun e => .engine step cluster container e

/-- Finds the balancer of a cluster. A container that is there already is attached, whether it runs
or not; none is created. -/
def lookUp (plan : Plan) (spec : ClusterSpec) : Procedure BalancerError Balancer := do
  if spec.name.isEmpty then Procedure.fail .unnamedCluster
  else
    let absent : Balancer :=
      { cluster := spec.name, image := spec.resolveImage plan.image, container := none }
    let found ← step .discoverBalancer absent.cluster absent.containerName
      (Cluster.balancer? absent.cluster)
    Procedure.tell (.balancerLookedUp absent.cluster absent.image found.isSome)
    return { absent with container := found }

/-- Takes over an image. An attached container keeps its image until it is deleted. -/
def withImage (b : Balancer) (image : String) : Balancer :=
  match b.container with
  | some _ => b
  | none => { b with image }

def imageEvents (b : Balancer) (image : String) : List Event :=
  if image = b.image then []
  else
    match b.container with
    | some c => [.imageKept b.cluster c.name b.image image]
    | none => [.imageChanged b.cluster b.image image]

/-- The address of the host at which the front end is published: every address. -/
def listenAddress : String := "0.0.0.0"

def launch (b : Balancer) : Launch where
  name := b.containerName
  image := b.image
  cluster := b.cluster
  listenAddress
  port := 0

/-- Creates the container if none is attached. -/
def create (b : Balancer) : Procedure BalancerError Balancer := do
  match b.container with
  | some _ =>
    Procedure.tell (.alreadyCreated b.cluster)
    return b
  | none =>
    Procedure.tell (.creating b.cluster b.launch.name b.launch.image)
    let container ← step .createBalancer b.cluster b.launch.name
      (Procedure.ask (.create b.launch))
    Procedure.tell (.created b.cluster container.name)
    return { b with container := some container }

/-- The attached container, which some operations need. -/
def attached (b : Balancer) : Procedure BalancerError Container :=
  match b.container with
  | some c => return c
  | none => Procedure.fail (.notProvisioned b.cluster)

/-- The document of the backends by the plan's renderer, as an error of the balancer if there is
none. -/
def document (plan : Plan) (b : Balancer) (backends : BackendSet) :
    Procedure BalancerError ByteArray :=
  match plan.renderer.render backends plan.options with
  | .ok bytes => do
    Procedure.tellAll (plan.renderer.events backends bytes)
    return bytes
  | .error e => Procedure.fail (.rejected b.cluster e)

/-- Points the container at the cluster's present control-plane nodes: writes the document of all of
them and then, never otherwise, has it read again. -/
def update (plan : Plan) (b : Balancer) : Procedure BalancerError Rollout := do
  let container ← b.attached
  let nodes ← step .discoverNodes b.cluster container.name (Cluster.controlPlane b.cluster)
  let backends ← Cluster.resolve b.cluster nodes Endpoint.controlPlanePort
  let document ← b.document plan backends
  let path := plan.renderer.path
  Procedure.tell (.updating b.cluster container.name backends.size path)
  step .writeDocument b.cluster container.name
    (Procedure.ask (.writeFile container path document))
  step .reload b.cluster container.name (Procedure.ask (.reload container))
  Procedure.tell (.reloaded b.cluster backends.endpoints)
  return ⟨backends, document.size⟩

def address (b : Balancer) : Procedure BalancerError String := do
  let container ← b.attached
  let address ← step .readAddress b.cluster container.name
    (Procedure.ask (.address container))
  if address.isEmpty then Procedure.fail (.noAddress b.cluster container.name)
  else return address

/-- Removes the container if one is attached. -/
def delete (b : Balancer) : Procedure BalancerError Balancer := do
  match b.container with
  | none =>
    Procedure.tell (.nothingToDelete b.cluster)
    return b
  | some container =>
    Procedure.tell (.deleting b.cluster container.name)
    step .deleteBalancer b.cluster container.name (Procedure.ask (.delete container))
    Procedure.tell (.deleted b.cluster)
    return { b with container := none }

/-- What can be asked of a balancer. -/
inductive Task where
  | create
  | update
  | address
  | delete
  | status
deriving DecidableEq, Repr

inductive Answer where
  | done
  | rollout (rollout : Rollout)
  | address (address : String)
  | status (status : Status)
deriving DecidableEq

/-- Carries out a task: the balancer as it is afterwards, and the answer. -/
def perform (plan : Plan) (b : Balancer) : Task → Procedure BalancerError (Balancer × Answer)
  | .create => do return (← b.create, .done)
  | .update => do return (b, .rollout (← b.update plan))
  | .address => do return (b, .address (← b.address))
  | .delete => do return (← b.delete, .done)
  | .status => return (b, .status b.status)

end Balancer

end ApiBalancer
