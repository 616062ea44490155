import ApiBalancer.Balancer.Basic
import ApiBalancer.Json.Fields
import ApiBalancer.Json.Reader
import ApiBalancer.Json.Writer

/-!
# Exchange in JSON

How containers, backends, clusters, settings and names are written as JSON and read again. Writing
gives every field; reading lets the fields with a default be left out.
-/

namespace ApiBalancer

namespace Role

def toJson (r : Role) : Json := .ofText r.name

def ofJson? (j : Json) : Option Role := j.name?.bind ofName?

end Role

namespace Signal

def toJson (s : Signal) : Json := .ofText s.word

def ofJson? (j : Json) : Option Signal := j.name?.bind ofWord?

end Signal

namespace Container

def toJson (c : Container) : Json :=
  .ofMembers [("name", .ofText c.name), ("labels", .ofMap .ofText c.labels)]

/-- The container that JSON gives; it may be without labels. -/
def ofJson? (j : Json) : Option Container :=
  match j.fields? ["name", "labels"] with
  | some [some name, labels] => do
    return { name := ← name.text?, labels := ← Json.orDefault (Json.mapOf? Json.text?) ∅ labels }
  | _ => none

end Container

namespace Backend

def toJson (b : Backend) : Json :=
  .ofMembers [("name", .ofText b.name), ("endpoint", .ofText b.endpoint)]

def ofJson? (j : Json) : Option Backend :=
  match j.fields? ["name", "endpoint"] with
  | some [some name, some endpoint] => do
    return { name := ← name.text?, endpoint := ← endpoint.text? }
  | _ => none

end Backend

namespace BackendSet

def toJson (s : BackendSet) : Json :=
  .ofMembers [("backends", .ofMap .ofText s.byName)]

def ofJson? (j : Json) : Option BackendSet :=
  match j.fields? ["backends"] with
  | some [some backends] => (Json.mapOf? Json.text? backends).map BackendSet.mk
  | _ => none

end BackendSet

namespace ClusterSpec

def toJson (spec : ClusterSpec) : Json :=
  .ofMembers
    [("name", .ofText spec.name),
      ("load_balancer_image", match spec.image with
        | some image => .ofText image
        | none => .null)]

/-- The cluster that JSON gives; it need not ask for an image. -/
def ofJson? (j : Json) : Option ClusterSpec :=
  match j.fields? ["name", "load_balancer_image"] with
  | some [some name, image] => do
    return { name := ← name.text?
             image := ← Json.orDefault (Json.optional? Json.text?) none image }
  | _ => none

end ClusterSpec

namespace ImageSource

def toJson (source : ImageSource) : Json :=
  .ofMembers
    [("repository", .ofText source.repository), ("name", .ofText source.name),
      ("tag", .ofText source.tag)]

def ofJson? (j : Json) : Option ImageSource :=
  match j.fields? ["repository", "name", "tag"] with
  | some [repository, name, tag] => do
    let default : ImageSource := {}
    return { repository := ← Json.orDefault Json.text? default.repository repository
             name := ← Json.orDefault Json.text? default.name name
             tag := ← Json.orDefault Json.text? default.tag tag }
  | _ => none

end ImageSource

namespace DocumentSettings

def toJson (s : DocumentSettings) : Json :=
  .ofMembers [("enable_stats", .bool s.enableStats), ("ipv6", .bool s.ipv6)]

def ofJson? (j : Json) : Option DocumentSettings :=
  match j.fields? ["enable_stats", "ipv6"] with
  | some [enableStats, ipv6] => do
    let default : DocumentSettings := {}
    return { enableStats := ← Json.orDefault Json.bool? default.enableStats enableStats
             ipv6 := ← Json.orDefault Json.bool? default.ipv6 ipv6 }
  | _ => none

end DocumentSettings

namespace EngineSettings

def toJson (s : EngineSettings) : Json := .ofMembers [("binary", .ofText s.binary)]

def ofJson? (j : Json) : Option EngineSettings :=
  match j.fields? ["binary"] with
  | some [binary] => do
    let default : EngineSettings := {}
    return { binary := ← Json.orDefault Json.text? default.binary binary }
  | _ => none

end EngineSettings

namespace Settings

def toJson (s : Settings) : Json :=
  .ofMembers
    [("image", s.image.toJson), ("render", s.document.toJson), ("docker", s.engine.toJson)]

/-- The settings that JSON gives, each with its default. -/
def ofJson? (j : Json) : Option Settings :=
  match j.fields? ["image", "render", "docker"] with
  | some [image, render, docker] => do
    return { image := ← Json.orDefault ImageSource.ofJson? {} image
             document := ← Json.orDefault DocumentSettings.ofJson? {} render
             engine := ← Json.orDefault EngineSettings.ofJson? {} docker }
  | _ => none

end Settings

def Status.toJson (s : Status) : Json :=
  .ofMembers
    [("cluster", .ofText s.cluster), ("container", .ofText s.container),
      ("image", .ofText s.image), ("provisioned", .bool s.provisioned)]

end ApiBalancer
