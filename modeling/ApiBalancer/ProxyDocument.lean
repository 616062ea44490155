import ApiBalancer.Backend
import ApiBalancer.Settings.Basic
import ApiBalancer.Text.Blank
import ApiBalancer.Text.Quoted

/-!
# The proxy's document

The balancer's container runs a TCP proxy. Its document has one line per directive: a fixed part, an
optional page of statistics, a front end on the control-plane port, and a back end with one server
line for each backend, in the order of their names. Words of a line are separated by spaces, so a
name or endpoint that is empty or holds a blank is refused.
-/

namespace ApiBalancer

/-- What varies between documents of the same backends. -/
structure DocumentOptions where
  /-- The port on which the front end listens, inside the container. -/
  controlPlanePort : UInt16 := Endpoint.controlPlanePort
  enableStats : Bool := true
  /-- Whether the front end listens on IPv6 too, and backends are resolved to IPv6 addresses. -/
  ipv6 : Bool := false
deriving DecidableEq

def DocumentOptions.ofSettings (settings : DocumentSettings) : DocumentOptions :=
  { enableStats := settings.enableStats, ipv6 := settings.ipv6 }

/-- A backend that no document can hold, and why. -/
structure InvalidBackend where
  name : String
  reason : String
deriving DecidableEq

def InvalidBackend.message (e : InvalidBackend) : String :=
  "invalid backend " ++ Text.quote e.name ++ ": " ++ e.reason

namespace ProxyDocument

/-- The parts of a backend that become words of its server line. -/
inductive Word where
  | name
  | endpoint
deriving DecidableEq

/-- Why a text cannot be a word of a line. -/
inductive Defect where
  | empty (word : Word)
  | blank (word : Word)
deriving DecidableEq

def Word.text : Word → String
  | name => "name"
  | endpoint => "endpoint"

def Defect.text : Defect → String
  | empty word => "empty " ++ word.text
  | blank word => word.text ++ " contains whitespace"

/-- What keeps a text from being a word of a line. -/
def defect? (word : Word) (s : String) : Option Defect :=
  if s.isEmpty then some (.empty word)
  else if s.toList.any (fun c => Text.isBlank c || Text.isControl c) then some (.blank word)
  else none

/-- What keeps a backend from having a server line; a bad name is found before a bad endpoint. -/
def backendDefect? (name endpoint : String) : Option Defect :=
  (defect? .name name).or (defect? .endpoint endpoint)

/-- The first backend, in the order of the names, that cannot have a server line. -/
def invalidBackend? (backends : List (String × String)) : Option InvalidBackend :=
  backends.findSome? fun b => (backendDefect? b.1 b.2).map fun d => ⟨b.1, d.text⟩

/-- Where the proxy reads its document, inside the container. -/
def path : String := "/usr/local/etc/haproxy/haproxy.cfg"

def statsPort : UInt16 := 8404

/-- The directives that every document starts with. -/
def preamble : List String :=
  ["# generated by kindlb",
    "global",
    "  log /dev/log local0",
    "  log /dev/log local1 notice",
    "  daemon",
    "  # limit memory usage to approximately 18 MB",
    "  maxconn 100000",
    "",
    "resolvers docker",
    "  nameserver dns 127.0.0.11:53",
    "",
    "defaults",
    "  log global",
    "  mode tcp",
    "  option dontlognull",
    "  timeout connect 5000",
    "  timeout client 50000",
    "  timeout server 50000",
    "  # allow to boot despite dns don't resolve backends",
    "  default-server init-addr none",
    ""]

def statsSection : List String :=
  ["frontend stats",
    "  mode http",
    "  bind *:" ++ toString statsPort.toNat,
    "  stats enable",
    "  stats uri /stats",
    "  stats refresh 10s",
    "  stats admin if TRUE",
    ""]

def frontSection (options : DocumentOptions) : List String :=
  ["frontend control-plane",
    "  bind *:" ++ toString options.controlPlanePort.toNat] ++
  (if options.ipv6 then ["  bind :::" ++ toString options.controlPlanePort.toNat] else []) ++
  ["  default_backend kube-apiservers",
    ""]

/-- The address family that backends are resolved to. -/
def family (options : DocumentOptions) : String := if options.ipv6 then "ipv6" else "ipv4"

def serverLine (options : DocumentOptions) (name endpoint : String) : String :=
  "  server " ++ name ++ " " ++ endpoint ++
    " check check-ssl verify none resolvers docker resolve-prefer " ++ family options

/-- The lines up to the server lines; they depend on the options alone. -/
def headLines (options : DocumentOptions) : List String :=
  preamble ++ (if options.enableStats then statsSection else []) ++ frontSection options ++
    ["backend kube-apiservers",
      "  option httpchk GET /healthz"]

def lines (options : DocumentOptions) (backends : BackendSet) : List String :=
  headLines options ++ backends.toList.map fun b => serverLine options b.1 b.2

def write (backends : BackendSet) (options : DocumentOptions) : Except InvalidBackend String :=
  match invalidBackend? backends.toList with
  | some e => .error e
  | none => .ok (Text.unlines (lines options backends))

end ProxyDocument

end ApiBalancer
