import RelayGate.Message
import RelayGate.Registry

/-!
# Approval by the layers

A message needs the approval of the Via layer and of the Chain layer, and of the Project layer where
a Project registry is configured and switched on. A signature counts for every layer that lists its
signer, and each layer's threshold is looked at on its own.

`Layers.validate` is strict: one signature that does not verify, or whose signer no active layer
lists, refuses the whole list.
-/

namespace RelayGate

/-- The registries that are consulted for one message. -/
structure Layers where
  via : Registry
  chain : Registry
  project : Option Registry
deriving DecidableEq

/-- How many signatures count for each layer. -/
structure Tally where
  via : UInt8
  chain : UInt8
  project : UInt8
  total : UInt8
deriving DecidableEq

namespace Layers

/-- A registry must be one of the layer for the chain, and belong to the authority: its address says
the first and not the second, since everybody can make registries under a gateway of their own. -/
def checkRegistry (layer : Layer) (chain : UInt64) (authority : Key) (r : Registry) :
    Traced GateError Unit := do
  ensure (r.layer = layer ∧ r.chain = chain) GateError.registryMismatch
  if r.authority ≠ authority then
    .say (.foreignRegistry layer chain r.authority)
    .fail .unauthorized

/-- All registries, in the order of their layers, must be those of the chain and the authority. -/
def checkConfigured (l : Layers) (chain : UInt64) (authority : Key) : Traced GateError Unit := do
  checkRegistry .via chain authority l.via
  checkRegistry .chain chain authority l.chain
  match l.project with
  | some project => checkRegistry .project chain authority project
  | none => pure ()

/-- The Project registry, where it takes part. -/
def activeProject (l : Layers) : Option Registry := l.project.filter (·.enabled)

/-- Whether the Project layer takes part and lists a key. -/
def projectRecognizes (l : Layers) (key : Key) : Bool :=
  l.activeProject.any (·.recognizes key)

/-- Goes through the signatures in order. `seen` holds the signers met so far: none may come twice,
each signature has to verify, and some active layer has to list its signer. -/
def checkEach (l : Layers) (digest : Digest) (verify : Verifier) :
    List Key → List Signature → Traced GateError Unit
  | _, [] => pure ()
  | seen, s :: rest => do
    ensure (s.signer ∉ seen) GateError.duplicateSigner
    if verify digest s = false then
      .say (.invalidSignature s.signer)
      .fail .invalidSignature
    let via := l.via.recognizes s.signer
    let chain := l.chain.recognizes s.signer
    let project := l.projectRecognizes s.signer
    if (via || chain || project) = false then
      .say (.unknownSigner s.signer)
      .fail .unauthorizedSigner
    .say (.validSignature s.signer via chain project)
    checkEach l digest verify (seen ++ [s.signer]) rest

/-- How many signatures count for each layer. -/
def tally (l : Layers) (signatures : List Signature) (digest : Digest) (verify : Verifier) : Tally where
  via := l.via.approvals signatures digest verify
  chain := l.chain.approvals signatures digest verify
  project :=
    match l.activeProject with
    | some project => project.approvals signatures digest verify
    | none => 0
  total := UInt8.ofNat signatures.length

/-- Each layer that takes part needs its threshold. -/
def checkThresholds (l : Layers) (t : Tally) : Except GateError Unit := do
  ensure (l.via.isSatisfiedBy t.via = true) .insufficientViaSignatures
  ensure (l.chain.isSatisfiedBy t.chain = true) .insufficientChainSignatures
  match l.activeProject with
  | some project =>
    ensure (project.isSatisfiedBy t.project = true) .insufficientProjectSignatures
  | none => pure ()

/-- Decides whether the signatures approve a digest on behalf of all layers. -/
def validate (l : Layers) (signatures : List Signature) (digest : Digest) (verify : Verifier) :
    Traced GateError Tally := do
  Signature.checkCount signatures
  checkDigest digest
  ensure (l.via.enabled = true) GateError.signerRegistryDisabled
  ensure (l.chain.enabled = true) GateError.signerRegistryDisabled
  l.checkEach digest verify [] signatures
  let t := l.tally signatures digest verify
  l.checkThresholds t
  .say (.validated t.via t.chain t.project t.total)
  pure t

end Layers

end RelayGate
