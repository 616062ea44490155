/-!
# Endpoints

An endpoint names a host and a port in one text.
-/

namespace ApiBalancer.Endpoint

/-- The host, a colon and the port. A host that holds colons itself, as IPv6 addresses do, stands
in brackets. -/
def join (host : String) (port : UInt16) : String :=
  if ':' ∈ host.toList then "[" ++ host ++ "]:" ++ toString port.toNat
  else host ++ ":" ++ toString port.toNat

/-- The port on which every API server listens, and on which the balancer stands in for them. -/
def controlPlanePort : UInt16 := 6443

end ApiBalancer.Endpoint
