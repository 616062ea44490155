import ApiBalancer.Balancer.Basic

/-!
# Arguments of the command line

The arguments name one command. Some options can be given before the name of the command as well as
after it, and count where they stand later; the others belong to one command. An option takes its
value from the same argument, after an equals sign, or from the next one.
-/

namespace ApiBalancer.CommandLine

inductive Verb where
  | task (task : Balancer.Task)
  | render
  | config
deriving DecidableEq, Repr

def Verb.name : Verb → String
  | task .create => "create"
  | task .update => "update"
  | task .address => "ip"
  | task .delete => "delete"
  | task .status => "status"
  | render => "render"
  | config => "config"

def Verb.all : List Verb :=
  [task .create, task .update, task .address, task .delete, task .status, render, config]

def Verb.ofName? (s : String) : Option Verb := Verb.all.find? (·.name == s)

/-- The options that take a value. -/
inductive Setting where
  | config
  | logFormat
  | cluster
  | image
  | backend
deriving DecidableEq, Repr

def Setting.name : Setting → String
  | config => "config"
  | logFormat => "log-format"
  | cluster => "cluster"
  | image => "image"
  | backend => "backend"

def Setting.all : List Setting := [config, logFormat, cluster, image, backend]

/-- Whether an option can be given after a command's name, or, without one, before it. -/
def Setting.belongsTo (level : Option Verb) : Setting → Bool
  | config | logFormat => true
  | cluster => match level with
    | some (.task _) => true
    | _ => false
  | image => level == some (.task .create)
  | backend => level == some .render

def Setting.ofName? (level : Option Verb) (s : String) : Option Setting :=
  Setting.all.find? fun setting => setting.belongsTo level && setting.name == s

/-- The ways to write the log. -/
inductive LogFormat where
  | text
  | json
deriving DecidableEq, Repr

def LogFormat.ofName? : String → Option LogFormat
  | "text" => some text
  | "json" => some json
  | _ => none

structure Given where
  config : Option String := none
  logFormat : Option LogFormat := none
  dryRun : Bool := false
  cluster : Option String := none
  image : Option String := none
  backends : List String := []

/-- Why the arguments make no order. -/
inductive Refusal where
  | usage
  /-- The version was asked for, after the name of a command or without one. -/
  | version (level : Option Verb)
deriving DecidableEq

/-- Sets an option that may be given once. -/
def once {α : Type} (current : Option α) (value : α) : Except Refusal (Option α) :=
  match current with
  | none => .ok (some value)
  | some _ => .error .usage

def Given.give (g : Given) (setting : Setting) (value : String) : Except Refusal Given :=
  match setting with
  | .config =>
    if value.isEmpty then .error .usage
    else (once g.config value).map fun config => { g with config }
  | .logFormat =>
    match LogFormat.ofName? value with
    | some format => (once g.logFormat format).map fun logFormat => { g with logFormat }
    | none => .error .usage
  | .cluster => (once g.cluster value).map fun cluster => { g with cluster }
  | .image => (once g.image value).map fun image => { g with image }
  | .backend => .ok { g with backends := g.backends ++ [value] }

/-- The last option that was named: it is taken over only when the next one is named, or at the
end. -/
inductive Pending where
  | nothing
  | unset (setting : Setting)
  | set (setting : Setting) (value : String)

/-- Takes over the last option that was named. -/
def Given.settle (g : Given) : Pending → Except Refusal Given
  | .nothing => .ok g
  | .unset _ => .error .usage
  | .set setting value => g.give setting value

inductive Form where
  /-- Two dashes: all that follows is no option. -/
  | rest
  | long (name : String) (value : Option String)
  | short (flags : List Char)
  | word
deriving DecidableEq

/-- The form of an argument. A single dash is a word. -/
def formOf (argument : String) : Form :=
  match argument.toList with
  | ['-', '-'] => .rest
  | '-' :: '-' :: cs =>
    let name := String.ofList (cs.takeWhile (· != '='))
    match cs.dropWhile (· != '=') with
    | _ :: value => .long name (some (String.ofList value))
    | [] => .long name none
  | '-' :: c :: cs => .short (c :: cs)
  | _ => .word

/-- What has been read at one level: the options, the last of which has not been taken over, and
the command with the arguments after it. -/
structure Level where
  given : Given
  pending : Pending
  command : Option (Verb × List String)

/-- Takes one named option, after the one before it has been taken over. -/
def readLong (level : Option Verb) (given : Given) (name : String) (value : Option String) :
    Except Refusal (Given × Pending) :=
  match name, value with
  | "version", none => .error (.version level)
  | "dry-run", none =>
    if given.dryRun then .error .usage else .ok ({ given with dryRun := true }, .nothing)
  | _, _ =>
    match Setting.ofName? level name, value with
    | some setting, some value => (given.give setting value).map (·, .nothing)
    | some setting, none => .ok (given, .unset setting)
    | none, _ => .error .usage

/-- Reads the arguments of a level, up to the name of a command if it is the first level. -/
def readLevel (level : Option Verb) (given : Given) (pending : Pending) :
    List String → Except Refusal Level
  | [] => .ok ⟨given, pending, none⟩
  | argument :: rest =>
    match formOf argument with
    | .rest => if rest.isEmpty then .ok ⟨given, pending, none⟩ else .error .usage
    | .long name value =>
      match given.settle pending with
      | .error e => .error e
      | .ok given =>
        match readLong level given name value with
        | .error e => .error e
        | .ok (given, pending) => readLevel level given pending rest
    | .short flags =>
      match given.settle pending with
      | .error e => .error e
      | .ok _ => .error (if flags.head? = some 'V' then .version level else .usage)
    | .word =>
      match pending, level, Verb.ofName? argument with
      | .unset setting, _, _ => readLevel level given (.set setting argument) rest
      | _, none, some verb => .ok ⟨given, pending, some (verb, rest)⟩
      | _, _, _ => .error .usage

inductive Command where
  | perform (spec : ClusterSpec) (task : Balancer.Task)
  /-- Write the document of the backends that are given, each as its name and its host. -/
  | render (backends : List String)
  | config
deriving DecidableEq

structure Order where
  /-- The path of the file with the settings. -/
  config : Option String
  logFormat : LogFormat
  /-- Whether an empty inventory stands in for the container engine. -/
  dryRun : Bool
  command : Command
deriving DecidableEq

def commandOf (verb : Verb) (given : Given) : Except Refusal Command :=
  match verb, given.cluster with
  | .task task, some cluster => .ok (.perform ⟨cluster, given.image⟩ task)
  | .task _, none => .error .usage
  | .render, _ => .ok (.render given.backends)
  | .config, _ => .ok .config

/-- The order that arguments give. The arguments after the command's name are looked at before the
last option in front of it. -/
def parse (arguments : List String) : Except Refusal Order := do
  let outer ← readLevel none {} .nothing arguments
  match outer.command with
  | none => .error .usage
  | some (verb, rest) =>
    let inner ← readLevel (some verb) {} .nothing rest
    let after ← inner.given.settle inner.pending
    let command ← commandOf verb after
    let before ← outer.given.settle outer.pending
    return { config := after.config.or before.config
             logFormat := (after.logFormat.or before.logFormat).getD .text
             dryRun := after.dryRun || before.dryRun
             command }

/-- What is written when the version is asked for. -/
def versionText (level : Option Verb) : String :=
  "kindlb" ++ (match level with
    | some verb => "-" ++ verb.name
    | none => "") ++ " 0.1.0\n"

end ApiBalancer.CommandLine
