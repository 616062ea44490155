import ApiBalancer.Image

/-!
# Settings

The user's settings: which image to run, what the proxy's document offers, and how to reach the
container engine. Every setting has a default.
-/

namespace ApiBalancer

/-- What the user may choose about the proxy's document. -/
structure DocumentSettings where
  enableStats : Bool := true
  ipv6 : Bool := false
deriving DecidableEq

/-- How the container engine is reached. -/
structure EngineSettings where
  binary : String := "docker"
deriving DecidableEq

structure Settings where
  image : ImageSource := {}
  document : DocumentSettings := {}
  engine : EngineSettings := {}
deriving DecidableEq

end ApiBalancer
