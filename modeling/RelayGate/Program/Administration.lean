import RelayGate.Program.Outcome

/-!
# Gateways and counters

Only who may replace the gate's program sets up gateways, and becomes the authority of each gateway
that it sets up. The authority stops and starts its gateway, and makes the counters of source chains.
-/

namespace RelayGate.Program

variable (scheme : AddressScheme) (inv : Invocation) (store : Store)

/-! ## Making a gateway -/

/-- The accounts of a call that makes a gateway. -/
structure GatewayCreation where
  address : Key
  bump : UInt8
  /-- Who pays, and becomes the authority. -/
  authority : Key
  store : Store

/-- Takes the accounts and makes the one of the gateway. Who calls has to be the key that the loader
keeps for the gate's program. -/
def prepareGateway (chain : UInt64) : Except Rejection GatewayCreation := do
  let address ← Access.takeNew inv 0
  let authority ← Access.takeSigner inv 1 .authority
  let program ← Access.takeProgram inv store .gate 2 .program
  let (dataAddress, replacer) ← Access.takeProgramData inv store 3 .programData
  let _ ← Access.takeProgram inv store .system 4 .systemProgram
  let bump ← Access.checkLocated scheme address (.gateway chain) .gateway
  let made ← RecordAccount.createDeclared scheme inv store address authority
    (RecordKind.tagSize + Gateway.size) (RecordKey.gateway chain).seeds bump
  Access.checkWritable inv authority .authority
  let expected ← Access.programDataAddress made program
  ensure (expected = some dataAddress) ((Rejection.access .conditionFailed).blaming .program)
  Access.check (replacer = some authority) .unauthorized .programData
  pure { address, bump, authority, store := made }

/-- Makes a gateway, open from the start. Zero is no chain. -/
def createGateway (chain : UInt64) : Traced Rejection Outcome := do
  let accounts ← prepareGateway scheme inv store chain
  ensure (chain ≠ 0) GateError.invalidChainId
  let gateway : Gateway :=
    { authority := accounts.authority, chain, enabled := true, bump := accounts.bump }
  .say (.gatewayCreated chain accounts.authority)
  let after ← Access.saveRecord accounts.store accounts.address gateway .gateway
  pure { store := after, events := [.gatewaySwitched chain true] }

/-! ## Starting and stopping a gateway -/

/-- Takes the gateway that is to be switched, which has to be the caller's. -/
def takeOwnGateway : Except Rejection (Key × Gateway) := do
  let (address, gateway) ← Access.takeRecord Gateway inv store 0 .gateway
  let authority ← Access.takeSigner inv 1 .authority
  Access.checkDerived scheme address (.gateway gateway.chain) gateway.bump .gateway
  Access.checkWritable inv address .gateway
  Access.check (gateway.isAuthority authority = true) .unauthorized .gateway
  pure (address, gateway)

def switchGateway (enabled : Bool) : Traced Rejection Outcome := do
  let (address, gateway) ← takeOwnGateway scheme inv store
  .say (.gatewaySwitched enabled gateway.chain)
  let after ← Access.saveRecord store address { gateway with enabled } .gateway
  pure { store := after, events := [.gatewaySwitched gateway.chain enabled] }

/-! ## Making a counter -/

/-- The accounts of a call that makes a counter. -/
structure CounterCreation where
  address : Key
  bump : UInt8
  /-- Who pays: the authority of the gateway. -/
  authority : Key
  gatewayAddress : Key
  store : Store

/-- Takes the accounts and makes the one of the counter. -/
def prepareCounter (source : UInt64) : Except Rejection CounterCreation := do
  let address ← Access.takeNew inv 0
  let authority ← Access.takeSigner inv 1 .authority
  let (gatewayAddress, gateway) ← Access.takeRecord Gateway inv store 2 .gateway
  let _ ← Access.takeProgram inv store .system 3 .systemProgram
  let bump ← Access.checkLocated scheme address (.counter source) .counter
  let made ← RecordAccount.createDeclared scheme inv store address authority
    (RecordKind.tagSize + Counter.size) (RecordKey.counter source).seeds bump
  Access.checkWritable inv authority .authority
  Access.checkGateway scheme gatewayAddress gateway authority
  Access.check (gateway.enabled = true) .systemDisabled .gateway
  pure { address, bump, authority, gatewayAddress, store := made }

/-- Makes a counter that has seen no transaction. Zero is no chain. -/
def createCounter (source : UInt64) : Traced Rejection Outcome := do
  let accounts ← prepareCounter scheme inv store source
  ensure (source ≠ 0) GateError.invalidChainId
  let counter : Counter := { chain := source, highest := 0, bump := accounts.bump }
  .say (.counterCreated source accounts.address accounts.authority)
  let after ← Access.saveRecord accounts.store accounts.address counter .counter
  pure
    { store := after
      events :=
        [.counterCreated source accounts.address accounts.authority accounts.gatewayAddress] }

end RelayGate.Program
