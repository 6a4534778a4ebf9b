import RelayGate.Layer
import RelayGate.Log
import RelayGate.Signature

/-!
# Signer registries

A registry lists the signers of one layer for one source chain, and how many of them must approve.
A registry is only ever changed into one whose threshold its signers can reach. A threshold of zero
is left to a Project registry that is switched off; the Via and Chain layers always need somebody.
-/

namespace RelayGate

/-- The signers of a layer for one source chain. -/
structure Registry where
  layer : Layer
  /-- Who may change the registry. -/
  authority : Key
  signers : List Key
  /-- How many of them must approve. -/
  threshold : UInt8
  chain : UInt64
  /-- Whether the registry takes part. -/
  enabled : Bool
  bump : UInt8
deriving DecidableEq

namespace Registry

def maxSigners : Nat := 10

/-- The least threshold of a registry that takes part. -/
def minThreshold : UInt8 := 1

def codec : Codec Registry :=
  (Layer.codec.pair <| (Codec.fixed 32).pair <| (Codec.fixed 32).list.pair <| Codec.u8.pair <|
      Codec.u64.pair <| Codec.bool.pair Codec.u8).iso
    (fun (layer, authority, signers, threshold, chain, enabled, bump) =>
      { layer, authority, signers, threshold, chain, enabled, bump })
    fun r => (r.layer, r.authority, r.signers, r.threshold, r.chain, r.enabled, r.bump)

/-- The bytes that a stored registry of so many signers takes: an eight-byte tag, the layer, the
authority, the count of signers and the signers, the threshold, the chain, the switch and the
bump. -/
def space (signers : Nat) : Nat := 8 + 1 + 32 + (4 + 32 * signers) + 1 + 8 + 1 + 1

/-! ## Configurations -/

/-- Whether a key occurs in the list a second time. -/
def hasRepeat : List Key → Bool
  | [] => false
  | key :: rest => rest.contains key || hasRepeat rest

/-- Refuses an empty list of signers, one that is too long, and one that repeats a signer. -/
def checkSigners (signers : List Key) : Except GateError Unit := do
  ensure (signers ≠ []) .emptySignerSet
  ensure (signers.length ≤ maxSigners) .tooManySigners
  ensure (hasRepeat signers = false) .duplicateSigner

/-- Refuses a threshold beyond the signers, and one of zero where somebody must approve. -/
def checkThreshold (layer : Layer) (signers : List Key) (threshold : UInt8) (enabled : Bool) :
    Except GateError Unit := do
  ensure (threshold.toNat ≤ signers.length) .thresholdTooHigh
  ensure (minThreshold ≤ threshold ∨ layer = .project ∧ enabled = false) .invalidThreshold

/-- A registry that takes part from the start. -/
def create (layer : Layer) (chain : UInt64) (authority : Key) (signers : List Key)
    (threshold bump : UInt8) : Except GateError Registry := do
  checkSigners signers
  checkThreshold layer signers threshold true
  pure { layer, authority, signers, threshold, chain, enabled := true, bump }

/-! ## Changes -/

/-- Code that changes a registry in place. Where it fails, what it has written so far stays written. -/
abbrev Edit := ExceptT GateError (StateM Registry)

/-- What an edit answers, and the registry as it is then. -/
def Edit.perform {α : Type} (edit : Edit α) (r : Registry) : Except GateError α × Registry :=
  edit.run.run r

def replaceSigners (signers : List Key) (threshold : UInt8) : Edit Unit := do
  checkSigners signers
  let r ← get
  checkThreshold r.layer signers threshold r.enabled
  modify ({ · with signers })
  modify ({ · with threshold })

/-- Puts one signer more at the end of the list. -/
def addSigner (signer : Key) : Edit Unit := do
  let r ← get
  ensure (signer ∉ r.signers) GateError.duplicateSigner
  ensure (r.signers.length < maxSigners) GateError.tooManySigners
  modify ({ · with signers := r.signers ++ [signer] })

/-- Takes one signer out. The threshold has to stay within reach. -/
def removeSigner (signer : Key) : Edit Unit := do
  let r ← get
  ensure (signer ∈ r.signers) GateError.signerNotFound
  let remaining := r.signers.erase signer
  checkThreshold r.layer remaining r.threshold r.enabled
  modify ({ · with signers := remaining })

def setThreshold (threshold : UInt8) : Edit Unit := do
  let r ← get
  checkThreshold r.layer r.signers threshold r.enabled
  modify ({ · with threshold })

def setEnabled (enabled : Bool) : Edit Unit := do
  let r ← get
  checkThreshold r.layer r.signers r.threshold enabled
  modify ({ · with enabled })

inductive Change where
  | replaceSigners (signers : List Key) (threshold : UInt8)
  | addSigner (signer : Key)
  | removeSigner (signer : Key)
  | setThreshold (threshold : UInt8)
  | setEnabled (enabled : Bool)
deriving DecidableEq

def Change.edit : Change → Edit Unit
  | .replaceSigners signers threshold => Registry.replaceSigners signers threshold
  | .addSigner signer => Registry.addSigner signer
  | .removeSigner signer => Registry.removeSigner signer
  | .setThreshold threshold => Registry.setThreshold threshold
  | .setEnabled enabled => Registry.setEnabled enabled

/-- The changed registry, or why the change is refused. -/
def apply (r : Registry) (change : Change) : Except GateError Registry := do
  let (result, changed) := change.edit.perform r
  result
  pure changed

/-- What the log tells about a change from one registry to the next. -/
def Change.line (before after : Registry) : Change → LogLine
  | .replaceSigners _ _ =>
    .signersReplaced after.layer before.signers.length after.signers.length after.threshold
  | .addSigner signer => .signerAdded signer after.layer after.signers.length
  | .removeSigner signer => .signerRemoved signer after.layer after.signers.length
  | .setThreshold threshold => .thresholdChanged after.layer before.threshold threshold
  | .setEnabled enabled => .registrySwitched after.layer enabled

/-! ## Approval -/

/-- Whether a key may approve: it is listed, and the registry takes part. -/
def recognizes (r : Registry) (key : Key) : Bool := r.enabled && r.signers.contains key

/-- The keys that approve a digest, each once, in the order in which their first valid signature
comes. `counted` holds those found so far. -/
def approvers (r : Registry) (digest : Digest) (verify : Verifier) :
    List Key → List Signature → List Key
  | counted, [] => counted
  | counted, s :: rest =>
    if r.recognizes s.signer && !counted.contains s.signer && verify digest s then
      approvers r digest verify (counted ++ [s.signer]) rest
    else approvers r digest verify counted rest

/-- How many keys approve a digest, counted in one byte. -/
def approvals (r : Registry) (signatures : List Signature) (digest : Digest) (verify : Verifier) :
    UInt8 :=
  UInt8.ofNat (r.approvers digest verify [] signatures).length

def isSatisfiedBy (r : Registry) (approvals : UInt8) : Bool := r.threshold ≤ approvals

/-- Whether a list of signatures meets the threshold of this registry alone. -/
def authorizes (r : Registry) (signatures : List Signature) (digest : Digest) (verify : Verifier) :
    Bool :=
  r.isSatisfiedBy (r.approvals signatures digest verify)

end Registry

end RelayGate
