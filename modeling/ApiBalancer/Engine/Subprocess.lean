import ApiBalancer.Engine.OsError
import ApiBalancer.Text.Utf8

/-!
# Commands and how they end

A container engine is reached by running a command. What the command does is up to its `Host`; here
is only what can come of it.
-/

namespace ApiBalancer

/-- A command with its arguments, and what it is to read. -/
structure Invocation where
  program : String
  arguments : List String
  input : Option ByteArray := none

def Invocation.line (i : Invocation) : String :=
  i.program ++ " " ++ " ".intercalate i.arguments

inductive ExitStatus where
  | code (n : UInt8)
  | signal (n : Nat) (dumped : Bool := false)
deriving DecidableEq, Repr

namespace ExitStatus

def isSuccess : ExitStatus → Bool
  | code n => n == 0
  | signal _ _ => false

/-- The names of the standard signals, by their numbers. The real-time signals have none. -/
def signalNames : List (Nat × String) :=
  [(1, "SIGHUP"), (2, "SIGINT"), (3, "SIGQUIT"), (4, "SIGILL"), (5, "SIGTRAP"), (6, "SIGABRT"),
    (7, "SIGBUS"), (8, "SIGFPE"), (9, "SIGKILL"), (10, "SIGUSR1"), (11, "SIGSEGV"),
    (12, "SIGUSR2"), (13, "SIGPIPE"), (14, "SIGALRM"), (15, "SIGTERM"), (16, "SIGSTKFLT"),
    (17, "SIGCHLD"), (18, "SIGCONT"), (19, "SIGSTOP"), (20, "SIGTSTP"), (21, "SIGTTIN"),
    (22, "SIGTTOU"), (23, "SIGURG"), (24, "SIGXCPU"), (25, "SIGXFSZ"), (26, "SIGVTALRM"),
    (27, "SIGPROF"), (28, "SIGWINCH"), (29, "SIGIO"), (30, "SIGPWR"), (31, "SIGSYS")]

def text : ExitStatus → String
  | code n => "exit status: " ++ toString n.toNat
  | signal n dumped =>
    let name := match signalNames.lookup n with
      | some name => " (" ++ name ++ ")"
      | none => ""
    "signal: " ++ toString n ++ name ++ if dumped then " (core dumped)" else ""

end ExitStatus

inductive Outcome where
  | notStarted (cause : OsError)
  /-- The command has ended. `inputFault` tells why it did not take all of its input. -/
  | ended (status : ExitStatus) (stdout stderr : ByteArray) (inputFault : Option OsError)
  /-- The command was started, but it could not be waited for or its output not be read. -/
  | lost (cause : OsError)
  | running

/-- Something that runs commands, with states `σ`. -/
structure Host (σ : Type) where
  launch : Invocation → σ → σ × Outcome

end ApiBalancer
