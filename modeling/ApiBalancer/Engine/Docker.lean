import ApiBalancer.Endpoint
import ApiBalancer.Engine.Procedure
import ApiBalancer.Engine.Subprocess
import ApiBalancer.Json.Fields
import ApiBalancer.Json.Reader
import ApiBalancer.Text.Blank

/-!
# The Docker command line as an engine

Each request is one run of the `docker` command: `Docker.arguments` says with which arguments,
`Docker.answer?` reads what it wrote. A request counts as served only if the command was started,
took all of its input and exited successfully.
-/

namespace ApiBalancer

/-- How the Docker command line is used. -/
structure Docker where
  binary : String := "docker"
  /-- Whether a container's address is its global IPv6 address and not its IPv4 address. -/
  ipv6 : Bool := false
deriving DecidableEq

namespace Docker

def labelArgument (key value : String) : String := key ++ "=" ++ value

/-- The labels on a container that is created for a cluster. -/
def launchLabels (l : Launch) : List (String × String) :=
  [(Label.cluster, l.cluster), (Label.role, Role.externalLoadBalancer.name)]

/-- Where a container's control-plane port is published; a port that the engine picks is left
out. -/
def published (l : Launch) : String :=
  l.listenAddress ++ ":" ++ (if l.port = 0 then "" else toString l.port.toNat) ++ ":" ++
    toString Endpoint.controlPlanePort.toNat ++ "/TCP"

/-- The arguments that start a container. -/
def runArguments (l : Launch) : List String :=
  ["run", "--detach", "--tty"] ++
    (launchLabels l).flatMap (fun e => ["--label", labelArgument e.1 e.2]) ++
    ["--hostname", l.name, "--name", l.name, "--publish", published l, l.image]

/-- The arguments that list the containers that answer a query. -/
def listArguments (q : LabelQuery) : List String :=
  ["ps", "--all", "--no-trunc"] ++
    q.toList.flatMap (fun e => ["--filter", "label=" ++ labelArgument e.1 e.2]) ++
    ["--format", "\x7b\x7b.Names\x7d\x7d"]

def signalArguments (container : String) (signal : Signal) : List String :=
  ["kill", "--signal", signal.name, container]

def arguments : Request → List String
  | .create launch => runArguments launch
  | .list query => listArguments query
  | .address c =>
    ["inspect", "--format", "\x7b\x7bjson .NetworkSettings.Networks\x7d\x7d", c.name]
  | .writeFile c path _ => ["exec", "--interactive", c.name, "cp", "/dev/stdin", path]
  | .signal c signal => signalArguments c.name signal
  | .reload c => signalArguments c.name .hangup
  | .delete c => ["rm", "--force", "--volumes", c.name]

/-- What the command that serves a request is to read. -/
def input : Request → Option ByteArray
  | .writeFile _ _ content => some content
  | _ => none

def invocation (d : Docker) (request : Request) : Invocation where
  program := d.binary
  arguments := arguments request
  input := input request

/-- The names in a listing: one a line, without the blanks around it; blank lines do not count. -/
def names (output : String) : List String :=
  ((Text.parts '\n' output).map Text.trimmed).filter (! ·.isEmpty)

/-- The container of a listing's line. All that is known of its labels is what was asked for. -/
def listed (q : LabelQuery) (name : String) : Container :=
  q.toList.foldl (fun c e => c.withLabel e.1 e.2) { name }

/-- A network that a container belongs to, with its addresses there. -/
structure Network where
  ipv4 : String := ""
  ipv6 : String := ""
deriving DecidableEq

/-- The network that JSON gives; addresses that are left out are empty. -/
def Network.ofJson? (j : Json) : Option Network :=
  match j.fields? ["IPAddress", "GlobalIPv6Address"] with
  | some [ipv4, ipv6] => do
    return { ipv4 := ← Json.orDefault Json.text? "" ipv4
             ipv6 := ← Json.orDefault Json.text? "" ipv6 }
  | _ => none

def Network.address (n : Network) (ipv6 : Bool) : String := if ipv6 then n.ipv6 else n.ipv4

/-- The first address that is not empty, in the order of the networks' names. A stopped container
has networks but no addresses. -/
def firstAddress (ipv6 : Bool) (networks : NameMap Network) : String :=
  ((networks.values.map (·.address ipv6)).find? (! ·.isEmpty)).getD ""

/-- The networks of a container in the output of an inspection. -/
def networks? (output : String) : Option (NameMap Network) :=
  ((Json.parse? (Text.trimmed output)).bind (Json.optional? (Json.mapOf? Network.ofJson?))).map
    (·.getD ∅)

/-- The address in the output of an inspection. -/
def address? (ipv6 : Bool) (output : String) : Option String :=
  (networks? output).map (firstAddress ipv6)

def answer? (d : Docker) : (request : Request) → String → Except EngineError request.Answer
  | .create launch, _ => .ok (.node launch.name launch.cluster .externalLoadBalancer)
  | .list query, output => .ok ((names output).map (listed query))
  | .address _, output =>
    match address? d.ipv6 output with
    | some address => .ok address
    | none => .error .unreadable
  | .writeFile _ _ _, _ | .signal _ _, _ | .reload _, _ | .delete _, _ => .ok ()

/-- The output of a command that did all it was to do. The reason for its failure is looked for in
its status first, since a command that fails may well not take its input. -/
def output (line : String) : Outcome → Option (Except EngineError String)
  | .notStarted cause | .lost cause => some (.error (.spawn line cause))
  | .running => none
  | .ended status stdout stderr inputFault =>
    if status.isSuccess then
      match inputFault with
      | some cause => some (.error (.spawn line cause))
      | none => some (.ok (Text.lossyText stdout))
    else some (.error (.exited line status.text (Text.trimmed (Text.lossyText stderr))))

variable {σ : Type}

def serve (d : Docker) (host : Host σ) (request : Request) (state : σ) : Reply σ request :=
  let invocation := d.invocation request
  let (state, outcome) := host.launch invocation state
  { state
    events := [.commandStarted invocation.line]
    answer := (output invocation.line outcome).map fun result =>
      result.bind (d.answer? request) }

def engine (d : Docker) (host : Host σ) : Engine σ := ⟨d.serve host⟩

end Docker

end ApiBalancer
