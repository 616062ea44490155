import ApiBalancer.Engine.Subprocess

/-!
# A host with a script

A host that runs nothing. Commands end as a script says, one line of it for each command that
starts, and every command that starts is recorded. Only the commands `docker` and `podman` exist.
-/

namespace ApiBalancer

structure Cue where
  stdout : ByteArray := .empty
  stderr : ByteArray := .empty
  status : ExitStatus := .code 0
  /-- Whether the command reads all of its input. If not, writing it breaks the pipe. -/
  readsInput : Bool := true
  hangs : Bool := false

structure Started where
  invocation : Invocation
  /-- What the command read, unless it did not read. -/
  read : Option ByteArray

/-- The script of a host as far as it has not been used, and the commands started so far. -/
structure Script where
  cues : List Cue := []
  started : List Started := []

namespace Script

def respond (s : Script) (cues : List Cue) : Script := { s with cues := s.cues ++ cues }

def refusal? (i : Invocation) : Option OsError :=
  if (i.program :: i.arguments).any (·.toList.contains '\x00') then some .nulInArgument
  else if i.program = "docker" ∨ i.program = "podman" then none
  else if i.program = "/" then some .permissionDenied
  else some .notFound

def outcome (cue : Cue) (input : Option ByteArray) : Outcome :=
  if cue.hangs then .running
  else
    let refused := match input with
      | some bytes => !cue.readsInput && !bytes.isEmpty
      | none => false
    .ended cue.status cue.stdout cue.stderr (if refused then some .brokenPipe else none)

/-- Starts a command on the next cue; with none left, it succeeds and says nothing. -/
def launch (i : Invocation) (s : Script) : Script × Outcome :=
  match refusal? i with
  | some cause => (s, .notStarted cause)
  | none =>
    let cue := s.cues.head?.getD {}
    let read := if cue.readsInput then some (i.input.getD .empty) else none
    ({ cues := s.cues.tail, started := s.started ++ [⟨i, read⟩] }, outcome cue i.input)

def host : Host Script := ⟨launch⟩

end Script

end ApiBalancer
