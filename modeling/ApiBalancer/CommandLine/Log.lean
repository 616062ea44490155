import ApiBalancer.CommandLine.Options
import ApiBalancer.Event
import ApiBalancer.Json.Writer

/-!
# The log

How events are written, one a line: as JSON objects, or as text.
-/

namespace ApiBalancer.CommandLine

def fieldJson : FieldValue → Json
  | .text s => .ofText s
  | .number n => .number (toString n)
  | .flag b => .bool b

def fieldText : FieldValue → String
  | .text s => s
  | .number n => toString n
  | .flag b => if b then "true" else "false"

/-- The line of an event. -/
def logLine (event : Event) : LogFormat → String
  | .json =>
    Json.compact <| .ofMembers
      [("level", .ofText event.level.name),
        ("fields", .ofMembers
          (("message", .ofText event.message) ::
            event.fields.map fun f => (f.1, fieldJson f.2)))]
  | .text =>
    " ".intercalate
      ([event.level.name, event.message] ++
        event.fields.map fun f => f.1 ++ "=" ++ fieldText f.2)

end ApiBalancer.CommandLine
