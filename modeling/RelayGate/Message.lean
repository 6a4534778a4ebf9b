import RelayGate.Check
import RelayGate.GateError
import RelayGate.Log
import RelayGate.Hash.Keccak

/-!
# Messages

A message travels from a source chain to a destination chain. What its signers sign is its digest,
the Keccak-256 hash of one canonical encoding, so the encoding must not leave any freedom: numbers
have fixed widths and every byte field stands behind its length.

The limits on the byte fields keep the lengths far below what four bytes can hold.
-/

namespace RelayGate

/-- The number of a transaction on its source chain. -/
abbrev TxId := BitVec 128

/-- A message between two chains. -/
structure Message where
  /-- Its number on the source chain. -/
  txId : TxId
  source : UInt64
  destination : UInt64
  /-- Who sent it, in the source chain's own form of address. -/
  sender : Bytes
  /-- Who receives it, in the destination chain's own form of address. -/
  recipient : Bytes
  onChainData : Bytes
  /-- Data that are part of the digest and never stored. -/
  offChainData : Bytes
deriving DecidableEq

namespace Message

def maxSender : Nat := 64

def maxRecipient : Nat := 64

def maxOnChainData : Nat := 1024

def maxOffChainData : Nat := 4096

/-- Refuses a field beyond its limit; the first one in the order of the fields is reported. -/
def checkSizes (m : Message) : Except GateError Unit := do
  ensure (m.sender.length ≤ maxSender) .senderTooLong
  ensure (m.recipient.length ≤ maxRecipient) .recipientTooLong
  ensure (m.onChainData.length ≤ maxOnChainData) .onChainDataTooLarge
  ensure (m.offChainData.length ≤ maxOffChainData) .offChainDataTooLarge

/-- The layout of a message: the three numbers, then the four byte fields behind their lengths. -/
def codec : Codec Message :=
  (Codec.u128.pair <| Codec.u64.pair <| Codec.u64.pair <| Codec.bytes.pair <| Codec.bytes.pair <|
      Codec.bytes.pair Codec.bytes).iso
    (fun (txId, source, destination, sender, recipient, onChainData, offChainData) =>
      { txId, source, destination, sender, recipient, onChainData, offChainData })
    fun m =>
      (m.txId, m.source, m.destination, m.sender, m.recipient, m.onChainData, m.offChainData)

def encode (m : Message) : Bytes := codec.encode m

/-- The hash of the canonical encoding, whatever the sizes. -/
def hash (m : Message) : Digest := Keccak.hash m.encode

/-- The digest that signers sign; a message beyond its limits has none. -/
def digest (m : Message) : Traced GateError Digest := do
  m.checkSizes
  .say (.hashed m.txId.toNat m.source m.destination m.hash)
  pure m.hash

end Message

/-- A digest of zeros is nobody's. -/
def checkDigest (digest : Digest) : Except GateError Unit :=
  ensure (digest.isZero = false) .invalidMessageHash

namespace Message

/-- What a request to send a message must satisfy before it is announced. -/
def checkRequest (recipient data : Bytes) : Except GateError Unit := do
  ensure (recipient ≠ []) .emptyRecipient
  ensure (data ≠ []) .emptyChainData
  ensure (recipient.length ≤ maxRecipient) .recipientTooLong
  ensure (data.length ≤ maxOnChainData) .onChainDataTooLarge

end Message

end RelayGate
