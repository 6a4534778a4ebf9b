import RelayGate.Message

/-!
# Markers

While a delivery is pending, a marker holds the digest that was committed. Settling has to present a
message with the same key and the same digest.
-/

namespace RelayGate

/-- What a marker is stored under. -/
structure MarkerKey where
  source : UInt64
  txId : TxId
deriving DecidableEq

def Message.key (m : Message) : MarkerKey := { source := m.source, txId := m.txId }

/-- A delivery that was committed and not yet settled. -/
structure Marker where
  txId : TxId
  source : UInt64
  digest : Digest
  bump : UInt8
deriving DecidableEq

namespace Marker

def codec : Codec Marker :=
  (Codec.u128.pair <| Codec.u64.pair <| (Codec.fixed 32).pair Codec.u8).iso
    (fun (txId, source, digest, bump) => { txId, source, digest, bump })
    fun m => (m.txId, m.source, m.digest, m.bump)

/-- The bytes of a marker behind its tag. -/
def size : Nat := 16 + 8 + 32 + 1

/-- The marker has to be one of this key and this digest. -/
def checkMatches (m : Marker) (txId : TxId) (source : UInt64) (digest : Digest) :
    Traced GateError Unit := do
  ensure (m.txId = txId ∧ m.source = source) GateError.recordNotFound
  if m.digest ≠ digest then
    .say (.digestDiffers txId.toNat m.digest digest)
    .fail .digestMismatch

end Marker

end RelayGate
