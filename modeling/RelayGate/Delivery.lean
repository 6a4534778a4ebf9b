import RelayGate.Counter
import RelayGate.Gateway
import RelayGate.Layers
import RelayGate.Marker

/-!
# Delivery in two phases

First a delivery is committed: a marker with the digest of the message is stored under the key of the
message. This checks no signature. A pending marker keeps everybody else from committing under the
same key, and the counter of the source chain keeps out every key that was used before.

Then it is settled: the whole message is presented again, has to have the committed digest, and the
signatures over that digest are put to the layers. On success the caller removes the marker; after a
failure it stays, and settling can be tried again with better signatures.
-/

namespace RelayGate

namespace Delivery

/-- What a settled delivery reports. -/
structure Settlement where
  /-- The digest of the message. -/
  digest : Digest
  /-- How many signatures counted. -/
  tally : Tally
deriving DecidableEq

/-- The marker to store for a message. `pending` is the marker stored under the message's key, if any:
it is in the way whatever the message. The caller stores the result and moves the counter on. -/
def commit (pending : Option Marker) (gateway : Gateway) (counter : Counter) (m : Message)
    (signatures : List Signature) (bump : UInt8) : Traced GateError Marker := do
  gateway.checkEnabled
  gateway.checkDestination m.destination
  if pending.isSome then
    .say (.alreadyPending m.txId.toNat m.source)
    .fail .alreadyExists
  counter.checkFresh m.txId
  Signature.checkCount signatures
  let digest ← m.digest
  pure { txId := m.txId, source := m.source, digest, bump }

/-- The marker that is pending under a key. -/
def expectPending (pending : Option Marker) (m : Message) : Traced GateError Marker :=
  match pending with
  | some marker => pure marker
  | none => do
    .say (.notPending m.txId.toNat m.source)
    .fail .recordNotFound

/-- All that has to hold before the marker of a message may be removed. -/
def settle (pending : Option Marker) (gateway : Gateway) (m : Message) (signatures : List Signature)
    (layers : Layers) (verify : Verifier) : Traced GateError Settlement := do
  gateway.checkEnabled
  gateway.checkDestination m.destination
  let marker ← expectPending pending m
  layers.checkConfigured m.source gateway.authority
  let digest ← m.digest
  marker.checkMatches m.txId m.source digest
  let tally ← layers.validate signatures digest verify
  pure { digest, tally }

end Delivery

end RelayGate
