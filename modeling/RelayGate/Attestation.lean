import RelayGate.Instruction
import RelayGate.Log
import RelayGate.Signature

/-!
# Attestations

The host has a native program that checks Ed25519 signatures before a transaction runs; a transaction
with a false signature never runs. So whatever an instruction for that program lists is true, and
verifying a signature is looking it up among the attestations of the instructions in front of the
current one.

The data of such an instruction start with a count and a padding byte. Each entry has seven numbers of
two bytes: the place of the signature and the instruction it is in, the same two for the key, and the
place, the length and the instruction of the signed message. The number 65535 stands for the very
instruction. Entries that point into other instructions attest nothing.
-/

namespace RelayGate

/-- A signature that was checked over a message. -/
structure Attestation where
  /-- Whose signature it is. -/
  signer : Key
  signature : FixedBytes 64
  /-- What was signed. -/
  message : Bytes
deriving DecidableEq

/-- The data are no list of checks. -/
inductive Malformed where
  | malformed
deriving DecidableEq

namespace Attestation

/-! ## The layout -/

/-- The bytes in front of the entries. -/
def headerSize : Nat := 2

def entrySize : Nat := 14

/-- The bytes of a key and a signature. -/
def pairSize : Nat := 96

/-- The number that stands for the very instruction. -/
def here : Nat := 0xffff

/-- An entry of the list of checks. -/
structure Entry where
  signatureAt : Nat
  signatureIn : Nat
  keyAt : Nat
  keyIn : Nat
  messageAt : Nat
  messageSize : Nat
  messageIn : Nat
deriving DecidableEq

namespace Entry

/-- Whether all that an entry points to is in the very instruction. -/
def isLocal (e : Entry) : Bool :=
  e.signatureIn == here && e.keyIn == here && e.messageIn == here

def encode (e : Entry) : Bytes :=
  [e.signatureAt, e.signatureIn, e.keyAt, e.keyIn, e.messageAt, e.messageSize, e.messageIn].flatMap
    (LittleEndian.encode 2)

/-- The entry of a number, when it lies inside the data. -/
def read? (data : Bytes) (i : Nat) : Option Entry :=
  (Bytes.slice? data (headerSize + entrySize * i) entrySize).map fun piece =>
    let field (n : Nat) : Nat := LittleEndian.decode ((piece.drop (2 * n)).take 2)
    { signatureAt := field 0, signatureIn := field 1, keyAt := field 2, keyIn := field 3,
      messageAt := field 4, messageSize := field 5, messageIn := field 6 }

/-- What a local entry attests, when all that it points to lies inside the data. -/
def attestation? (data : Bytes) (e : Entry) : Option Attestation := do
  let signature ← FixedBytes.slice? 64 data e.signatureAt
  let signer ← FixedBytes.slice? 32 data e.keyAt
  let message ← Bytes.slice? data e.messageAt e.messageSize
  pure { signer, signature, message }

end Entry

def require {α : Type} : Option α → Except Malformed α
  | some a => .ok a
  | none => .error .malformed

/-- What the entries of these numbers attest. -/
def readEntries (data : Bytes) : List Nat → Traced Malformed (List Attestation)
  | [] => pure []
  | i :: rest => do
    let entry ← require (Entry.read? data i)
    if entry.isLocal then
      let attestation ← require (entry.attestation? data)
      let attestations ← readEntries data rest
      pure (attestation :: attestations)
    else
      .say (.foreignCheck i)
      readEntries data rest

/-- What the data of a checking instruction attest. -/
def parse (data : Bytes) : Traced Malformed (List Attestation) := do
  let count ← require data.head?
  readEntries data (List.range count.toNat)

/-- The data that have every signature checked over one message: the entries, then each key with its
signature, then the message. There are none when the count needs more than a byte or a place more
than two. -/
def encode? (signatures : List Signature) (message : Bytes) : Option Bytes :=
  let count := signatures.length
  let pairsAt := headerSize + entrySize * count
  let messageAt := pairsAt + pairSize * count
  if count ≤ 0xff ∧ messageAt + message.length ≤ 0xffff then
    let entry (i : Nat) : Entry :=
      { signatureAt := pairsAt + pairSize * i + 32, signatureIn := here,
        keyAt := pairsAt + pairSize * i, keyIn := here,
        messageAt, messageSize := message.length, messageIn := here }
    some <|
      [UInt8.ofNat count, 0] ++ (List.range count).flatMap (fun i => (entry i).encode) ++
        signatures.flatMap (fun s => s.signer.bytes ++ s.bytes.bytes) ++ message
  else none

/-- The instruction that has every signature checked over one message. -/
def instruction? (signatures : List Signature) (message : Bytes) : Option Instruction :=
  (encode? signatures message).map fun data => { program := .ed25519, data }

/-! ## Attestations of a transaction -/

/-- What an instruction attests: nothing unless it is for the checking program and well formed. -/
def ofInstruction (i : Instruction) : List Attestation :=
  if i.program = .ed25519 then
    match (parse i.data).outcome with
    | .ok attestations => attestations
    | .error _ => []
  else []

/-- What reading an instruction tells the operator. -/
def linesOfInstruction (i : Instruction) (index : Nat) : List LogLine :=
  if i.program = .ed25519 then
    let parsed := parse i.data
    parsed.log ++
      match parsed.outcome with
      | .ok _ => []
      | .error _ => [.malformedChecks index]
  else []

def ofInstructions (instructions : List Instruction) : List Attestation :=
  instructions.flatMap ofInstruction

def linesOfInstructions (instructions : List Instruction) : List LogLine :=
  instructions.zipIdx.flatMap fun (i, index) => linesOfInstruction i index

/-- Looks a signature up: signer, signature and all of the digest have to agree. -/
def verifier (attestations : List Attestation) : Verifier := fun digest s =>
  attestations.any fun a =>
    a.signer == s.signer && a.signature == s.bytes && a.message == digest.bytes

end Attestation

end RelayGate
