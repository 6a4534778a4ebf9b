import RelayGate.Check
import RelayGate.GateError
import RelayGate.Signature

/-!
# Gateways

A gateway serves one destination chain. Its authority configures it, and can stop it.
-/

namespace RelayGate

/-- The configuration of one destination chain. -/
structure Gateway where
  /-- Who configures the gateway, and whose registries it trusts. -/
  authority : Key
  /-- The chain that the gateway serves. -/
  chain : UInt64
  enabled : Bool
  bump : UInt8
deriving DecidableEq

namespace Gateway

def codec : Codec Gateway :=
  ((Codec.fixed 32).pair <| Codec.u64.pair <| Codec.bool.pair Codec.u8).iso
    (fun (authority, chain, enabled, bump) => { authority, chain, enabled, bump })
    fun g => (g.authority, g.chain, g.enabled, g.bump)

/-- The bytes of a gateway behind its tag. -/
def size : Nat := 32 + 8 + 1 + 1

def isAuthority (g : Gateway) (key : Key) : Bool := g.authority == key

/-- A stopped gateway lets nothing pass. -/
def checkEnabled (g : Gateway) : Except GateError Unit :=
  ensure (g.enabled = true) .systemDisabled

/-- Only messages for the gateway's own chain pass. -/
def checkDestination (g : Gateway) (destination : UInt64) : Except GateError Unit :=
  ensure (destination = g.chain) .invalidDestChain

end Gateway

end RelayGate
