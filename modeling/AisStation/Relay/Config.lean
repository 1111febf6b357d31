/-!
Configuration of a relay.
-/

namespace AisStation

/-- Where a relay listens and what it takes from its clients. -/
structure RelayConfig where
  enabled : Bool := true
  host : String := "0.0.0.0"
  port : Int := 8090
  maxClients : Int := 1000
  maxLineBytes : Int := 1024
deriving DecidableEq, Repr

end AisStation
