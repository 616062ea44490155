import ApiBalancer.CommandLine.Options
import ApiBalancer.CommandLine.Report
import ApiBalancer.Engine.Docker
import ApiBalancer.Engine.Inventory
import ApiBalancer.Exchange
import ApiBalancer.Fleet.Basic

/-!
# Running a command

What comes of a command line, as a function of the files that can be read and of the host that runs
the commands of the container engine.
-/

namespace ApiBalancer.CommandLine

structure Report where
  status : Nat
  stdout : String := ""
  stderr : String := ""
  events : List Event := []

def Report.of (result : Except Failure String) (events : List Event) : Report :=
  match result with
  | .ok stdout => { status := 0, stdout, events }
  | .error failure => { status := 1, stderr := failure.report, events }

/-- The backend that an argument gives: its name before the first equals sign, its host after it.
Backends answer on the control-plane port. -/
def backendOf (argument : String) : Except BackendFault Backend :=
  let name := argument.toList.takeWhile (· != '=')
  match argument.toList.dropWhile (· != '=') with
  | [] => .error (.noSeparator argument)
  | _ :: host =>
    if name.isEmpty || host.isEmpty then .error (.emptySide argument)
    else
      .ok (.reachable (String.ofList name) (String.ofList host) Endpoint.controlPlanePort)

/-- The backends that arguments give; the first faulty argument ends it. -/
def backendsOf (arguments : List String) : Except BackendFault BackendSet :=
  (arguments.mapM backendOf).map BackendSet.ofList

def render (settings : Settings) (arguments : List String) : Report :=
  match backendsOf arguments with
  | .error fault => .of (.error (.backend fault)) []
  | .ok backends =>
    let renderer := Renderer.proxy
    match renderer.render backends (.ofSettings settings.document) with
    | .error cause => .of (.error (.document cause)) []
    | .ok document =>
      .of (.ok (Text.lossyText document)) (renderer.events backends document)

/-- What is written about a task that has succeeded. -/
def answerText (cluster : String) (task : Balancer.Task) : Balancer.Answer → String
  | .done =>
    "✓ Load balancer for cluster " ++ cluster ++
      (if task = .delete then " removed" else " is ready") ++ "\n"
  | .rollout rollout =>
    Text.unlines <|
      ("✓ Load balancer for cluster " ++ cluster ++ " now routes to " ++
        toString rollout.backends.size ++ " backend(s)") ::
      rollout.backends.toList.map fun b => "  " ++ b.1 ++ " → " ++ b.2
  | .address address => address ++ "\n"
  | .status status => Json.pretty status.toJson ++ "\n"

variable {σ : Type}

/-- Carries out a task on an engine, with nothing looked up before: the engine afterwards, and what
comes of the task, if the engine answers. -/
def perform (engine : Engine σ) (settings : Settings) (spec : ClusterSpec) (task : Balancer.Task)
    (state : σ) : σ × Option (Except Failure String × List Event) :=
  let (_, p, ending) :=
    Fleet.perform engine .never spec task { plan := .ofSettings settings } state
  match ending with
  | .finished result =>
    let text := match result with
      | .ok answer => .ok (answerText spec.name task answer)
      | .error e => .error (.balancer e)
    (p.engine, some (text, p.events))
  | .blocked _ => (p.engine, none)

/-- Carries out a task on an empty inventory and tells which calls it took. -/
def rehearse (settings : Settings) (spec : ClusterSpec) (task : Balancer.Task) : Option Report :=
  let (inventory, outcome) := perform Inventory.engine settings spec task {}
  outcome.map fun (result, events) => .of result (events ++ inventory.calls.map .rehearsed)

def carryOut (host : Host σ) (settings : Settings) (spec : ClusterSpec) (task : Balancer.Task)
    (state : σ) : σ × Option Report :=
  let docker : Docker := { binary := settings.engine.binary, ipv6 := settings.document.ipv6 }
  let (state, outcome) := perform (docker.engine host) settings spec task state
  (state, outcome.map fun (result, events) => .of result events)

def settingsOf (read : String → Except OsError ByteArray) (config : Option String) :
    Except Failure Settings :=
  match config with
  | none => .ok {}
  | some path =>
    match Settings.load read path with
    | .ok settings => .ok settings
    | .error e => .error (.settings path e)

/-- Carries out an order. There is no report if the container engine does not answer. -/
def execute (host : Host σ) (read : String → Except OsError ByteArray) (order : Order) (state : σ) :
    σ × Option Report :=
  match settingsOf read order.config with
  | .error failure => (state, some (.of (.error failure) []))
  | .ok settings =>
    match order.command with
    | .config => (state, some (.of (.ok settings.toToml) []))
    | .render backends => (state, some (render settings backends))
    | .perform spec task =>
      if order.dryRun then (state, rehearse settings spec task)
      else carryOut host settings spec task state

/-- What is written about arguments that make no order. -/
def usageText : String :=
  Text.unlines
    ["Usage: kindlb [--config <PATH>] [--log-format <text|json>] [--dry-run] <COMMAND>",
      "Commands: " ++ ", ".intercalate (Verb.all.map Verb.name)]

def Refusal.report : Refusal → Report
  | .version level => { status := 0, stdout := versionText level }
  | .usage => { status := 2, stderr := usageText }

def run (host : Host σ) (read : String → Except OsError ByteArray) (arguments : List String)
    (state : σ) : σ × Option Report :=
  match parse arguments with
  | .error refusal => (state, some refusal.report)
  | .ok order => execute host read order state

end ApiBalancer.CommandLine
