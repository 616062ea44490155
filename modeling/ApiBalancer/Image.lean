/-!
# Images

Which image a balancer's container runs: the one that its cluster asks for, or else the one that
the settings name.
-/

namespace ApiBalancer

/-- The parts of the reference of the image that runs where a cluster asks for no other. -/
structure ImageSource where
  repository : String := "kindest"
  name : String := "haproxy"
  tag : String := "v20230510-486859a6"
deriving DecidableEq

def ImageSource.reference (source : ImageSource) : String :=
  source.repository ++ "/" ++ source.name ++ ":" ++ source.tag

/-- A cluster as its balancer knows it: its name, and the image that it asks for. -/
structure ClusterSpec where
  name : String
  image : Option String := none
deriving DecidableEq

/-- The image that the cluster's balancer runs. Asking for the empty image is asking for none. -/
def ClusterSpec.resolveImage (spec : ClusterSpec) (source : ImageSource) : String :=
  match spec.image with
  | some image => if image.isEmpty then source.reference else image
  | none => source.reference

end ApiBalancer
