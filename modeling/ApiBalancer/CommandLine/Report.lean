import ApiBalancer.Balancer.Error
import ApiBalancer.Settings.Toml

/-!
# Reports of failures

What is written when a command fails: the error, and below it the errors behind it.
-/

namespace ApiBalancer.CommandLine

/-- A backend argument without an equals sign, or with nothing on one side of it. -/
inductive BackendFault where
  | noSeparator (argument : String)
  | emptySide (argument : String)
deriving DecidableEq

def BackendFault.message : BackendFault → String
  | noSeparator argument =>
    "invalid backend " ++ Text.quote argument ++ ": expected NAME=HOST"
  | emptySide argument =>
    "invalid backend " ++ Text.quote argument ++ ": name and host must be non-empty"

inductive Failure where
  | settings (path : String) (cause : SettingsError)
  | backend (cause : BackendFault)
  | document (cause : InvalidBackend)
  | balancer (cause : BalancerError)
deriving DecidableEq

namespace Failure

def message : Failure → String
  | settings path _ => "loading config from " ++ path
  | backend cause => cause.message
  | document _ => "rendering load balancer config"
  | balancer cause => cause.message

/-- The texts of the errors behind the failure, the nearest first. -/
def causes : Failure → List String
  | settings _ cause => cause.message :: cause.causes
  | backend _ => []
  | document cause => [cause.message]
  | balancer cause => cause.causes

/-- A text whose first line follows `lead`, and whose other lines are indented by as much. -/
def hanging (lead text : String) : String :=
  lead ++ ("\n" ++ String.ofList (List.replicate lead.length ' ')).intercalate
    (Text.parts '\n' text)

/-- The number of a cause, to the right of five columns. -/
def numberLead (n : Nat) : String :=
  let digits := toString n
  String.ofList (List.replicate (5 - digits.length) ' ') ++ digits ++ ": "

/-- The causes, numbered if there are several. -/
def causeLines : List String → List String
  | [] => []
  | [cause] => ["", "Caused by:", hanging "    " cause]
  | several =>
    "" :: "Caused by:" :: several.zipIdx.map fun (cause, n) => hanging (numberLead n) cause

def report (f : Failure) : String :=
  Text.unlines (("Error: " ++ f.message) :: causeLines f.causes)

end Failure

end ApiBalancer.CommandLine
