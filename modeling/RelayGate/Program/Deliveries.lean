import RelayGate.Attestation
import RelayGate.Delivery
import RelayGate.Program.Outcome

/-!
# Deliveries in the store

The two phases of a delivery over stored records. Every record is taken from its own address: the
marker and the counter from those of the message, the registries from those of its source chain. So a
caller has no choice but in the gateway, and the gateway has to serve the message's destination.

The Project registry is consulted whenever there is one at its address; leaving it out is no option.
-/

namespace RelayGate.Program

variable (scheme : AddressScheme) (inv : Invocation) (store : Store)

/-! ## Asking for a message to be sent -/

/-- Takes the gateway of a request and who asks. -/
def takeRequest : Except Rejection (Gateway × Key) := do
  let (gatewayAddress, gateway) ← Access.takeRecord Gateway inv store 0 .gateway
  let sender ← Access.takeSigner inv 1 .sender
  Access.checkDerived scheme gatewayAddress (.gateway gateway.chain) gateway.bump .gateway
  pure (gateway, sender)

/-- Announces a message. Nothing is stored. -/
def request (txId : TxId) (recipient : Bytes) (destination : UInt64) (data : Bytes)
    (confirmations : UInt16) : Traced Rejection Outcome := do
  let (gateway, sender) ← takeRequest scheme inv store
  gateway.checkEnabled
  Message.checkRequest recipient data
  .say (.requested txId.toNat gateway.chain destination)
  pure { store, events := [.requested txId sender recipient destination data confirmations] }

/-! ## Committing -/

structure CommitAccounts where
  gateway : Gateway
  markerAddress : Key
  markerBump : UInt8
  counterAddress : Key
  counter : Counter
  /-- Who pays for the marker. -/
  relayer : Key

def takeCommit (key : MarkerKey) : Except Rejection CommitAccounts := do
  let (gatewayAddress, gateway) ← Access.takeRecord Gateway inv store 0 .gateway
  let markerAddress ← Access.take inv 1 .marker
  let (counterAddress, counter) ← Access.takeRecord Counter inv store 2 .counter
  let relayer ← Access.takeSigner inv 3 .relayer
  let _ ← Access.takeProgram inv store .system 4 .systemProgram
  Access.checkDerived scheme gatewayAddress (.gateway gateway.chain) gateway.bump .gateway
  let markerBump ← Access.checkLocated scheme markerAddress (.marker key) .marker
  Access.checkWritable inv markerAddress .marker
  Access.checkDerived scheme counterAddress (.counter key.source) counter.bump .counter
  Access.checkWritable inv counterAddress .counter
  Access.checkWritable inv relayer .relayer
  pure { gateway, markerAddress, markerBump, counterAddress, counter, relayer }

/-- Commits a delivery: stores the marker and moves the counter on. -/
def commit (m : Message) (signatures : List Signature) : Traced Rejection Outcome := do
  let accounts ← takeCommit scheme inv store m.key
  let pending ← (store.account accounts.markerAddress).loadOptional Marker inv.program
  let marker ←
    Delivery.commit pending accounts.gateway accounts.counter m signatures accounts.markerBump
  let made ← RecordAccount.create scheme inv store accounts.markerAddress accounts.relayer
    (RecordKind.tagSize + Marker.size) (RecordKey.marker m.key).seeds marker.bump
  let marked ← Access.writeRecord made accounts.markerAddress marker
  let counter ← accounts.counter.advance m.txId
  .say (.counterAdvanced m.source counter.highest.toNat)
  .say (.committed m.txId.toNat m.source)
  let after ← Access.saveRecord marked accounts.counterAddress counter .counter
  pure { store := after, events := [.committed m.txId m.source marker.digest] }

/-! ## Settling -/

/-- The accounts of a settlement. -/
structure SettleAccounts where
  gateway : Gateway
  markerAddress : Key
  via : Registry
  chain : Registry
  projectAddress : Key
  /-- Who gets the marker's balance. -/
  relayer : Key
  /-- Where the host shows the instructions. -/
  instructions : Key

def takeSettle (key : MarkerKey) : Except Rejection SettleAccounts := do
  let (gatewayAddress, gateway) ← Access.takeRecord Gateway inv store 0 .gateway
  let markerAddress ← Access.take inv 1 .marker
  let (viaAddress, via) ← Access.takeRecord Registry inv store 2 .viaRegistry
  let (chainAddress, chain) ← Access.takeRecord Registry inv store 3 .chainRegistry
  let projectAddress ← Access.take inv 4 .projectRegistry
  let relayer ← Access.takeSigner inv 5 .relayer
  let instructions ← Access.take inv 6 .instructions
  Access.checkDerived scheme gatewayAddress (.gateway gateway.chain) gateway.bump .gateway
  let _ ← Access.checkLocated scheme markerAddress (.marker key) .marker
  Access.checkWritable inv markerAddress .marker
  Access.checkDerived scheme viaAddress (.registry .via key.source) via.bump .viaRegistry
  Access.checkDerived scheme chainAddress (.registry .chain key.source) chain.bump .chainRegistry
  let _ ← Access.checkLocated scheme projectAddress (.registry .project key.source) .projectRegistry
  Access.checkWritable inv relayer .relayer
  ensure (instructions = .instructions)
    ((Rejection.access .wrongAddress).blaming .instructions)
  pure { gateway, markerAddress, via, chain, projectAddress, relayer, instructions }

/-- What the instructions in front of the running one attest, read from where the host shows them. -/
def loadAttestations (key : Key) (data : Bytes) : Traced Rejection (List Attestation) := do
  ensure (key = .instructions) HostError.unsupportedSysvar
  let preceding ←
    (Instruction.readPreceding data).mapError fun _ => Rejection.host .invalidArgument
  let attestations := Attestation.ofInstructions preceding
  .tell (Attestation.linesOfInstructions preceding)
  .say (.attestationsLoaded attestations.length preceding.length)
  pure attestations

/-- Settles a delivery: closes the marker in favour of the relayer. -/
def settle (m : Message) (signatures : List Signature) : Traced Rejection Outcome := do
  let accounts ← takeSettle scheme inv store m.key
  let pending ← (store.account accounts.markerAddress).loadOptional Marker inv.program
  let attestations ←
    loadAttestations accounts.instructions (store.account accounts.instructions).data
  let project ← (store.account accounts.projectAddress).loadOptional Registry inv.program
  let layers : Layers := { via := accounts.via, chain := accounts.chain, project }
  let settlement ←
    Delivery.settle pending accounts.gateway m signatures layers (Attestation.verifier attestations)
  let after ← RecordAccount.close store accounts.markerAddress accounts.relayer
  .say (.settled m.txId.toNat settlement.tally.total)
  pure
    { store := after
      events := [.settled m.txId m.source settlement.digest accounts.relayer] }

end RelayGate.Program
