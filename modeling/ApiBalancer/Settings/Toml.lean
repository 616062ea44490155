import ApiBalancer.Engine.OsError
import ApiBalancer.Settings.Basic
import ApiBalancer.Text.Blank
import ApiBalancer.Toml.Fields
import ApiBalancer.Toml.Reader
import ApiBalancer.Toml.Writer

/-!
# Settings in TOML

The user writes the settings as a TOML document with the tables `image`, `render` and `docker`. What
is left out has its default, and what is not known is ignored. `Settings.toToml` writes a document
that gives every setting.
-/

namespace ApiBalancer

def ImageSource.ofToml? (v : Toml.Value) : Option ImageSource :=
  match Toml.fields? ["repository", "name", "tag"] v with
  | some [repository, name, tag] => do
    let default : ImageSource := {}
    return { repository := ← Toml.orDefault Toml.Value.text? default.repository repository
             name := ← Toml.orDefault Toml.Value.text? default.name name
             tag := ← Toml.orDefault Toml.Value.text? default.tag tag }
  | _ => none

def DocumentSettings.ofToml? (v : Toml.Value) : Option DocumentSettings :=
  match Toml.fields? ["enable_stats", "ipv6"] v with
  | some [enableStats, ipv6] => do
    let default : DocumentSettings := {}
    return { enableStats := ← Toml.orDefault Toml.Value.bool? default.enableStats enableStats
             ipv6 := ← Toml.orDefault Toml.Value.bool? default.ipv6 ipv6 }
  | _ => none

def EngineSettings.ofToml? (v : Toml.Value) : Option EngineSettings :=
  match Toml.fields? ["binary"] v with
  | some [binary] => do
    let default : EngineSettings := {}
    return { binary := ← Toml.orDefault Toml.Value.text? default.binary binary }
  | _ => none

/-- Why there are no settings. -/
inductive SettingsError where
  | unreadable (path : String) (cause : OsError)
  /-- The text is no TOML document, or gives a setting a value of another kind. -/
  | malformed
deriving DecidableEq

namespace SettingsError

def defect : String := "no TOML document of settings"

def message : SettingsError → String
  | unreadable path cause => "failed to read " ++ path ++ ": " ++ cause.message
  | malformed => "invalid configuration: " ++ defect

def causes : SettingsError → List String
  | unreadable _ cause => [cause.message]
  | malformed => [defect]

end SettingsError

namespace Settings

/-- The settings that TOML gives. -/
def ofToml? (v : Toml.Value) : Option Settings :=
  match Toml.fields? ["image", "render", "docker"] v with
  | some [image, render, docker] => do
    return { image := ← Toml.orDefault ImageSource.ofToml? {} image
             document := ← Toml.orDefault DocumentSettings.ofToml? {} render
             engine := ← Toml.orDefault EngineSettings.ofToml? {} docker }
  | _ => none

def parse (document : String) : Except SettingsError Settings :=
  match (Toml.parse? document).bind ofToml? with
  | some settings => .ok settings
  | none => .error .malformed

/-- The settings in the file at `path`, as a way to read files gives it. -/
def load (read : String → Except OsError ByteArray) (path : String) :
    Except SettingsError Settings :=
  match read path with
  | .error cause => .error (.unreadable path cause)
  | .ok bytes =>
    match String.fromUTF8? bytes with
    | some document => parse document
    | none => .error (.unreadable path .notText)

/-- A document that gives all of the settings. -/
def toToml (s : Settings) : String :=
  Text.unlines <|
    Toml.tableLines "image"
      [("repository", Toml.written s.image.repository), ("name", Toml.written s.image.name),
        ("tag", Toml.written s.image.tag)] ++
    [""] ++
    Toml.tableLines "render"
      [("enable_stats", Toml.writtenBool s.document.enableStats),
        ("ipv6", Toml.writtenBool s.document.ipv6)] ++
    [""] ++
    Toml.tableLines "docker" [("binary", Toml.written s.engine.binary)]

end Settings

end ApiBalancer
