/-!
# Why the gate refuses

Each way in which a message, a registry change or a request can break the gate's own rules. A refusal
is shown by its name, its number and its text; the numbers follow the order of the constructors.
-/

namespace RelayGate

/-- A broken rule of the gate. -/
inductive GateError where
  | systemDisabled
  /-- The caller, or a registry, does not belong to the gateway's authority. -/
  | unauthorized
  | invalidDestChain
  /-- Zero is no chain. -/
  | invalidChainId
  | emptyRecipient
  | emptyChainData
  | senderTooLong
  | recipientTooLong
  | onChainDataTooLarge
  | offChainDataTooLarge
  | tooFewSignatures
  | tooManySignatures
  /-- A signature nobody attested for this digest. -/
  | invalidSignature
  /-- A signer that no active layer lists. -/
  | unauthorizedSigner
  | duplicateSigner
  | insufficientViaSignatures
  | insufficientChainSignatures
  | insufficientProjectSignatures
  /-- The record to be made is there already. -/
  | alreadyExists
  | txIdTooOld
  | recordNotFound
  /-- The message is not the one that was committed. -/
  | digestMismatch
  | invalidMessageHash
  /-- A threshold of zero where one is needed. -/
  | invalidThreshold
  | thresholdTooHigh
  | emptySignerSet
  | tooManySigners
  | signerNotFound
  /-- The Via or Chain registry is switched off. -/
  | signerRegistryDisabled
  /-- A registry of another layer or chain. -/
  | registryMismatch
deriving DecidableEq, Repr

namespace GateError

/-- All refusals, in the order of their numbers. -/
def all : List GateError :=
  [systemDisabled, unauthorized, invalidDestChain, invalidChainId, emptyRecipient, emptyChainData,
    senderTooLong, recipientTooLong, onChainDataTooLarge, offChainDataTooLarge, tooFewSignatures,
    tooManySignatures, invalidSignature, unauthorizedSigner, duplicateSigner,
    insufficientViaSignatures, insufficientChainSignatures, insufficientProjectSignatures,
    alreadyExists, txIdTooOld, recordNotFound, digestMismatch, invalidMessageHash, invalidThreshold,
    thresholdTooHigh, emptySignerSet, tooManySigners, signerNotFound, signerRegistryDisabled,
    registryMismatch]

/-- The number of a refusal: the gate's numbers start at 6000. -/
def code (e : GateError) : Nat := 6000 + all.idxOf e

def name : GateError → String
  | systemDisabled => "SystemDisabled"
  | unauthorized => "Unauthorized"
  | invalidDestChain => "InvalidDestChain"
  | invalidChainId => "InvalidChainId"
  | emptyRecipient => "EmptyRecipient"
  | emptyChainData => "EmptyChainData"
  | senderTooLong => "SenderTooLong"
  | recipientTooLong => "RecipientTooLong"
  | onChainDataTooLarge => "OnChainDataTooLarge"
  | offChainDataTooLarge => "OffChainDataTooLarge"
  | tooFewSignatures => "TooFewSignatures"
  | tooManySignatures => "TooManySignatures"
  | invalidSignature => "InvalidSignature"
  | unauthorizedSigner => "UnauthorizedSigner"
  | duplicateSigner => "DuplicateSigner"
  | insufficientViaSignatures => "InsufficientViaSignatures"
  | insufficientChainSignatures => "InsufficientChainSignatures"
  | insufficientProjectSignatures => "InsufficientProjectSignatures"
  | alreadyExists => "AlreadyExists"
  | txIdTooOld => "TxIdTooOld"
  | recordNotFound => "RecordNotFound"
  | digestMismatch => "DigestMismatch"
  | invalidMessageHash => "InvalidMessageHash"
  | invalidThreshold => "InvalidThreshold"
  | thresholdTooHigh => "ThresholdTooHigh"
  | emptySignerSet => "EmptySignerSet"
  | tooManySigners => "TooManySigners"
  | signerNotFound => "SignerNotFound"
  | signerRegistryDisabled => "SignerRegistryDisabled"
  | registryMismatch => "RegistryMismatch"

def message : GateError → String
  | systemDisabled => "System is disabled"
  | unauthorized => "Unauthorized authority"
  | invalidDestChain => "Invalid destination chain"
  | invalidChainId => "Invalid chain ID"
  | emptyRecipient => "Empty recipient address"
  | emptyChainData => "Empty chain data"
  | senderTooLong => "Sender address too long"
  | recipientTooLong => "Recipient address too long"
  | onChainDataTooLarge => "On-chain data too large"
  | offChainDataTooLarge => "Off-chain data too large"
  | tooFewSignatures => "Too few signatures supplied"
  | tooManySignatures => "Too many signatures supplied"
  | invalidSignature => "Signature failed Ed25519 verification"
  | unauthorizedSigner => "Signer is not present in any active registry"
  | duplicateSigner => "Signer appears more than once"
  | insufficientViaSignatures => "Insufficient VIA layer signatures"
  | insufficientChainSignatures => "Insufficient chain layer signatures"
  | insufficientProjectSignatures => "Insufficient project layer signatures"
  | alreadyExists => "Record already exists"
  | txIdTooOld => "Transaction ID not above the highest seen for its source chain"
  | recordNotFound => "No pending record for this transaction"
  | digestMismatch => "Recomputed message hash differs from the stored hash"
  | invalidMessageHash => "Invalid message hash"
  | invalidThreshold => "Invalid signature threshold"
  | thresholdTooHigh => "Threshold exceeds signer count"
  | emptySignerSet => "Signer set is empty"
  | tooManySigners => "Too many signers for registry"
  | signerNotFound => "Signer not found in registry"
  | signerRegistryDisabled => "Signer registry is disabled"
  | registryMismatch => "Registry does not match the requested layer or chain"

end GateError

end RelayGate
