import ApiBalancer.Engine.Request

/-!
# Events

What is reported while the balancers are looked after. Every event has a level, a text and named
fields, which a log writes out.
-/

namespace ApiBalancer

/-- How much an event matters. -/
inductive Level where
  | debug
  | info
  | warn
deriving DecidableEq, Repr

def Level.name : Level → String
  | debug => "DEBUG"
  | info => "INFO"
  | warn => "WARN"

inductive FieldValue where
  | text (s : String)
  | number (n : Nat)
  | flag (b : Bool)
deriving DecidableEq, Repr

/-- Something worth reporting. -/
inductive Event where
  | nodesFound (cluster : String) (role : Role) (count : Nat)
  | severalBalancers (cluster : String) (containers : List String)
  | balancerLookedUp (cluster image : String) (found : Bool)
  | imageKept (cluster container current requested : String)
  | imageChanged (cluster old new : String)
  | alreadyCreated (cluster : String)
  | creating (cluster container image : String)
  | created (cluster container : String)
  | documentWritten (backends bytes : Nat)
  | updating (cluster container : String) (backends : Nat) (path : String)
  | reloaded (cluster : String) (endpoints : List String)
  | nothingToDelete (cluster : String)
  | deleting (cluster container : String)
  | deleted (cluster : String)
  | forgotten (cluster : String)
  | faultInjected (operation : Operation) (message : String)
  | commandStarted (command : String)
  | rehearsed (call : Call)

namespace Event

def level : Event → Level
  | severalBalancers .. | imageKept .. | nothingToDelete .. => .warn
  | creating .. | created .. | updating .. | deleting .. | deleted .. | rehearsed .. => .info
  | _ => .debug

/-- The text of the event. An injected fault speaks for itself. -/
def message : Event → String
  | nodesFound .. => "discovered nodes"
  | severalBalancers .. => "multiple load balancer containers found, using the first"
  | balancerLookedUp .. => "load balancer looked up"
  | imageKept .. => "image change ignored for existing load balancer, delete it to apply"
  | imageChanged .. => "load balancer image updated"
  | alreadyCreated .. => "load balancer already exists"
  | creating .. => "creating load balancer container"
  | created .. => "load balancer container created"
  | documentWritten .. => "rendered haproxy config"
  | updating .. => "updating load balancer configuration"
  | reloaded .. => "load balancer reloaded"
  | nothingToDelete .. => "no load balancer to delete"
  | deleting .. => "deleting load balancer container"
  | deleted .. => "load balancer container deleted"
  | forgotten .. => "load balancer forgotten"
  | faultInjected _ message => message
  | commandStarted .. => "running docker command"
  | rehearsed .. => "dry run: runtime request"

def fields : Event → List (String × FieldValue)
  | nodesFound cluster role count =>
    [("cluster", .text cluster), ("role", .text role.name), ("count", .number count)]
  | severalBalancers cluster containers =>
    [("cluster", .text cluster),
      ("containers", .text (Text.shownList (containers.map Text.quote)))]
  | balancerLookedUp cluster image found =>
    [("cluster", .text cluster), ("image", .text image), ("found", .flag found)]
  | imageKept cluster container current requested =>
    [("cluster", .text cluster), ("container", .text container), ("current", .text current),
      ("requested", .text requested)]
  | imageChanged cluster old new =>
    [("cluster", .text cluster), ("from", .text old), ("to", .text new)]
  | alreadyCreated cluster | nothingToDelete cluster | deleted cluster | forgotten cluster =>
    [("cluster", .text cluster)]
  | creating cluster container image =>
    [("cluster", .text cluster), ("container", .text container), ("image", .text image)]
  | created cluster container | deleting cluster container =>
    [("cluster", .text cluster), ("container", .text container)]
  | documentWritten backends bytes => [("backends", .number backends), ("bytes", .number bytes)]
  | updating cluster container backends path =>
    [("cluster", .text cluster), ("container", .text container), ("backends", .number backends),
      ("path", .text path)]
  | reloaded cluster endpoints =>
    [("cluster", .text cluster), ("endpoints", .text (Text.shownList (endpoints.map Text.quote)))]
  | faultInjected operation _ => [("operation", .text operation.shown)]
  | commandStarted command => [("command", .text command)]
  | rehearsed call => [("call", .text call.shown)]

end Event

end ApiBalancer
