import RelayGate.Program.Outcome

/-!
# Registries in the store

The authority of a gateway makes registries, and owns those that it makes. To change a registry one
has to be its authority and the authority of some gateway. Every account of a registry has room for
the most signers a registry may have, so that changes never need to resize it.
-/

namespace RelayGate.Program

variable (scheme : AddressScheme) (inv : Invocation) (store : Store)

/-- The accounts of a call that makes a registry. -/
structure RegistryCreation where
  address : Key
  bump : UInt8
  /-- Who pays, and becomes the authority. -/
  authority : Key

def prepareRegistry (layer : Layer) (chain : UInt64) : Except Rejection RegistryCreation := do
  let address ← Access.take inv 0 .registry
  let (gatewayAddress, gateway) ← Access.takeRecord Gateway inv store 1 .gateway
  let authority ← Access.takeSigner inv 2 .authority
  let _ ← Access.takeProgram inv store .system 3 .systemProgram
  let bump ← Access.checkLocated scheme address (.registry layer chain) .registry
  Access.checkWritable inv address .registry
  Access.checkGateway scheme gatewayAddress gateway authority
  Access.checkWritable inv authority .authority
  pure { address, bump, authority }

def createRegistry (layer : Layer) (chain : UInt64) (signers : List Key) (threshold : UInt8) :
    Traced Rejection Outcome := do
  let accounts ← prepareRegistry scheme inv store layer chain
  let registry ← Registry.create layer chain accounts.authority signers threshold accounts.bump
  let made ← RecordAccount.create scheme inv store accounts.address accounts.authority
    (Registry.space Registry.maxSigners) (RecordKey.registry layer chain).seeds accounts.bump
  let after ← Access.writeRecord made accounts.address registry
  .say (.registryCreated layer chain signers.length threshold)
  pure { store := after, events := [registry.event] }

def takeOwnRegistry (layer : Layer) (chain : UInt64) : Except Rejection (Key × Registry) := do
  let (address, registry) ← Access.takeRecord Registry inv store 0 .registry
  let (gatewayAddress, gateway) ← Access.takeRecord Gateway inv store 1 .gateway
  let authority ← Access.takeSigner inv 2 .authority
  Access.checkDerived scheme address (.registry layer chain) registry.bump .registry
  Access.checkWritable inv address .registry
  Access.check (registry.authority = authority) .unauthorized .registry
  Access.checkGateway scheme gatewayAddress gateway authority
  pure (address, registry)

def changeRegistry (layer : Layer) (chain : UInt64) (change : Registry.Change) :
    Traced Rejection Outcome := do
  let (address, registry) ← takeOwnRegistry scheme inv store layer chain
  let changed ← registry.apply change
  .say (change.line registry changed)
  let after ← Access.saveRecord store address changed .registry
  pure { store := after, events := [changed.event] }

end RelayGate.Program
