import RelayGate.Check
import RelayGate.GateError
import RelayGate.Key
import RelayGate.Bytes.Codec

/-!
# Signatures

A signature names its signer; the layer it counts for follows from the registries that list the
signer. The gate never checks a signature itself: it asks a `Verifier`, and how many signatures a
message may carry is bounded before anything else is looked at.
-/

namespace RelayGate

/-- One signer's signature. -/
structure Signature where
  /-- Whose signature it is. -/
  signer : Key
  bytes : FixedBytes 64
deriving DecidableEq

/-- Says whether a signature is one of its signer over exactly this digest. -/
abbrev Verifier := Digest → Signature → Bool

namespace Signature

/-- The most signatures a message may carry. -/
def maxPerMessage : Nat := 8

/-- The fewest signatures a message may carry. -/
def minPerMessage : Nat := 1

/-- Where a signature is an argument of a call, its bytes stand before its signer. -/
def codec : Codec Signature :=
  ((Codec.fixed 64).pair (Codec.fixed 32)).iso (fun (bytes, signer) => { signer, bytes })
    fun s => (s.bytes, s.signer)

/-- Refuses a list of too few or too many signatures. -/
def checkCount (signatures : List Signature) : Except GateError Unit := do
  ensure (minPerMessage ≤ signatures.length) .tooFewSignatures
  ensure (signatures.length ≤ maxPerMessage) .tooManySignatures

end Signature

end RelayGate
