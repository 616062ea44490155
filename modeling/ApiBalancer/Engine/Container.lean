import ApiBalancer.Label
import ApiBalancer.Text.Quoted

/-!
# Containers and signals
-/

namespace ApiBalancer

/-- A container as the engine reported it: its name is its identity, its labels are what was
known when the handle was taken. -/
structure Container where
  name : String
  labels : Labels := ∅
deriving DecidableEq

namespace Container

def withLabel (c : Container) (key value : String) : Container :=
  { c with labels := c.labels.insert key value }

/-- A container labelled as a node of a cluster. -/
def node (name cluster : String) (role : Role) : Container :=
  (({ name } : Container).withLabel Label.cluster cluster).withLabel Label.role role.name

/-- The cluster that the container is labelled with. -/
def cluster? (c : Container) : Option String := c.labels.get? Label.cluster

def shown (c : Container) : String :=
  Text.shownRecord "Container"
    [("name", Text.quote c.name),
      ("labels", Text.shownMap (c.labels.toList.map fun e => (Text.quote e.1, Text.quote e.2)))]

end Container

/-- What can be sent to the main process of a container. -/
inductive Signal where
  /-- Asks the process to read its configuration again. -/
  | hangup
  | terminate
  | kill
deriving DecidableEq, Repr

namespace Signal

/-- The name under which the signal is sent. -/
def name : Signal → String
  | hangup => "SIGHUP"
  | terminate => "SIGTERM"
  | kill => "SIGKILL"

def all : List Signal := [hangup, terminate, kill]

def ofName? (s : String) : Option Signal := all.find? (·.name == s)

/-- The word for what the signal asks for. -/
def word : Signal → String
  | hangup => "Hangup"
  | terminate => "Terminate"
  | kill => "Kill"

def ofWord? (s : String) : Option Signal := all.find? (·.word == s)

end Signal

end ApiBalancer
