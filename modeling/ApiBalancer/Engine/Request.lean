import ApiBalancer.Engine.Container
import ApiBalancer.Engine.OsError

/-!
# Requests to the container engine

What a container engine can be asked for, what it answers, and how it can fail. A `Call` is the
record that is kept of a request: containers appear in it by name alone, and asking for a reload is
recorded as the signal that it is.
-/

namespace ApiBalancer

/-- What a balancer's container is started with. -/
structure Launch where
  /-- The container's name, which is its host name too. -/
  name : String
  image : String
  cluster : String
  listenAddress : String
  /-- The port of the host; at 0 the engine picks one. -/
  port : UInt16
deriving DecidableEq

inductive Request where
  /-- Create and start a container labelled as its cluster's balancer. -/
  | create (launch : Launch)
  /-- List the containers that answer a query, running or not. -/
  | list (query : LabelQuery)
  /-- Look up the container's address; it is empty if there is none. -/
  | address (container : Container)
  /-- Write a file inside the container in place of any that is there. -/
  | writeFile (container : Container) (path : String) (content : ByteArray)
  | signal (container : Container) (signal : Signal)
  /-- Make the container's process read its configuration again. -/
  | reload (container : Container)
  | delete (container : Container)

/-- What a successful answer to a request holds. -/
abbrev Request.Answer : Request → Type
  | .create _ => Container
  | .list _ => List Container
  | .address _ => String
  | .writeFile _ _ _ | .signal _ _ | .reload _ | .delete _ => Unit

inductive Operation where
  | create
  | list
  | address
  | writeFile
  | signal
  | delete
deriving DecidableEq, Repr

namespace Operation

def all : List Operation := [create, list, address, writeFile, signal, delete]

def shown : Operation → String
  | create => "Create"
  | list => "List"
  | address => "Address"
  | writeFile => "WriteFile"
  | signal => "Signal"
  | delete => "Delete"

end Operation

inductive Call where
  | create (launch : Launch)
  | list (query : LabelQuery)
  | address (container : String)
  | writeFile (container path : String) (content : ByteArray)
  | signal (container : String) (signal : Signal)
  | delete (container : String)

def Request.call : Request → Call
  | .create l => .create l
  | .list q => .list q
  | .address c => .address c.name
  | .writeFile c path content => .writeFile c.name path content
  | .signal c s => .signal c.name s
  | .reload c => .signal c.name .hangup
  | .delete c => .delete c.name

namespace Call

def operation : Call → Operation
  | create _ => .create
  | list _ => .list
  | address _ => .address
  | writeFile _ _ _ => .writeFile
  | signal _ _ => .signal
  | delete _ => .delete

def shown (call : Call) : String :=
  match call with
  | create l =>
    Text.shownApplied call.operation.shown <| Text.shownRecord "CreateLoadBalancer"
      [("name", Text.quote l.name), ("image", Text.quote l.image),
        ("cluster", Text.quote l.cluster), ("listen_address", Text.quote l.listenAddress),
        ("port", toString l.port.toNat)]
  | list q =>
    Text.shownApplied call.operation.shown <| Text.shownRecord "LabelFilter"
      [("predicates", Text.shownMap (q.toList.map fun e => (Text.quote e.1, Text.quote e.2)))]
  | address c => Text.shownApplied call.operation.shown (Text.quote c)
  | writeFile c path content =>
    Text.shownRecord call.operation.shown
      [("container", Text.quote c), ("path", Text.quote path),
        ("content", Text.shownList (content.toList.map fun b => toString b.toNat))]
  | signal c s =>
    Text.shownRecord call.operation.shown [("container", Text.quote c), ("signal", s.word)]
  | delete c => Text.shownApplied call.operation.shown (Text.quote c)

end Call

inductive EngineError where
  /-- The engine's command could not be run, or did not take its input. -/
  | spawn (command : String) (cause : OsError)
  | exited (command status stderr : String)
  | notFound (container : String)
  /-- The engine's answer is not of the form that the request asks for. -/
  | unreadable
  | failed (message : String)
deriving DecidableEq

namespace EngineError

def defect : String := "no addresses of a container"

def message : EngineError → String
  | spawn command cause => "failed to run `" ++ command ++ "`: " ++ cause.message
  | exited command status stderr =>
    "`" ++ command ++ "` exited with " ++ status ++ ": " ++ stderr
  | notFound container => "container not found: " ++ container
  | unreadable => "unexpected runtime output: " ++ defect
  | failed text => text

/-- The texts of the errors behind this one, the nearest first. -/
def causes : EngineError → List String
  | spawn _ cause => [cause.message]
  | _ => []

end EngineError

end ApiBalancer
