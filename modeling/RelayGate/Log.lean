import RelayGate.Key
import RelayGate.Layer

/-!
# Log lines and traced results

While it runs, a call writes log lines, and it may fail after some of them have been written. So the
result of such a call is `Traced`: the lines in order, and an outcome. What the rules say is a matter
of the outcome alone, and `outcome_bind` lets a proof forget the lines.
-/

namespace RelayGate

/-- Something worth telling the operator. -/
inductive LogLine where
  | started (call : String)
  | hashed (txId : Nat) (source destination : UInt64) (digest : Digest)
  /-- A transaction id is too old for its chain's counter. -/
  | notAbove (txId highest : Nat) (source : UInt64)
  | alreadyPending (txId : Nat) (source : UInt64)
  | notPending (txId : Nat) (source : UInt64)
  /-- The message differs from the committed one. -/
  | digestDiffers (txId : Nat) (stored recomputed : Digest)
  /-- A registry belongs to somebody else. -/
  | foreignRegistry (layer : Layer) (chain : UInt64) (authority : Key)
  /-- The instruction at this place holds no readable checks. -/
  | malformedChecks (index : Nat)
  /-- The check at this place refers to another instruction. -/
  | foreignCheck (index : Nat)
  /-- How many attestations precede the current instruction. -/
  | attestationsLoaded (count instructions : Nat)
  /-- A signature nobody attested. -/
  | invalidSignature (signer : Key)
  /-- A signer that no active layer lists. -/
  | unknownSigner (signer : Key)
  /-- A signature that counts, and for which layers. -/
  | validSignature (signer : Key) (via chain project : Bool)
  /-- The counts of a signature list that satisfies every layer. -/
  | validated (via chain project total : UInt8)
  /-- The record to be made is there already. -/
  | recordExists (address : Key)
  | counterAdvanced (source : UInt64) (highest : Nat)
  | committed (txId : Nat) (source : UInt64)
  | settled (txId : Nat) (total : UInt8)
  | gatewaySwitched (enabled : Bool) (chain : UInt64)
  | gatewayCreated (chain : UInt64) (authority : Key)
  | counterCreated (source : UInt64) (address authority : Key)
  | registryCreated (layer : Layer) (chain : UInt64) (signers : Nat) (threshold : UInt8)
  | signersReplaced (layer : Layer) (before after : Nat) (threshold : UInt8)
  | signerAdded (signer : Key) (layer : Layer) (total : Nat)
  | signerRemoved (signer : Key) (layer : Layer) (remaining : Nat)
  | thresholdChanged (layer : Layer) (before after : UInt8)
  | registrySwitched (layer : Layer) (enabled : Bool)
  | requested (txId : Nat) (source destination : UInt64)
deriving DecidableEq

namespace LogLine

def truth (b : Bool) : String := if b then "true" else "false"

def listing (digest : Digest) : String :=
  "[" ++ ", ".intercalate (digest.bytes.map fun b => toString b.toNat) ++ "]"

def text : LogLine → String
  | started call => "Instruction: " ++ call
  | hashed txId source destination digest =>
    s!"Generated hash for tx_id={txId}, source_chain={source.toNat}, " ++
      s!"dest_chain={destination.toNat}, hash=" ++ listing digest
  | notAbove txId highest source =>
    s!"tx_id={txId} not above highest seen {highest} for source_chain={source.toNat}"
  | alreadyPending txId source =>
    s!"TxId PDA already pending for tx_id={txId} source_chain={source.toNat}"
  | notPending txId source =>
    s!"No pending TxId PDA for tx_id={txId} source_chain={source.toNat}"
  | digestDiffers txId stored recomputed =>
    s!"Digest mismatch for tx_id={txId}: stored=" ++ listing stored ++ ", recomputed=" ++
      listing recomputed
  | foreignRegistry layer chain authority =>
    layer.name ++ s!" registry for chain {chain.toNat} belongs to " ++ Key.base58 authority ++
      ", not the gateway authority"
  | malformedChecks index => s!"Skipping malformed Ed25519 instruction at index {index}"
  | foreignCheck index => s!"Ignoring Ed25519 entry {index} that references another instruction"
  | attestationsLoaded count instructions =>
    s!"Loaded {count} Ed25519 attestations from {instructions} preceding instructions"
  | invalidSignature signer => "Invalid Ed25519 signature from signer: " ++ Key.base58 signer
  | unknownSigner signer =>
    "Unauthorized signer " ++ Key.base58 signer ++ " - not found in any registry"
  | validSignature signer via chain project =>
    "Valid signature from " ++ Key.base58 signer ++ " (VIA: " ++ truth via ++ ", Chain: " ++
      truth chain ++ ", Project: " ++ truth project ++ ")"
  | validated via chain project total =>
    s!"Signature validation completed: VIA={via.toNat}, Chain={chain.toNat}, " ++
      s!"Project={project.toNat}, Total={total.toNat}"
  | recordExists address => "Record " ++ Key.base58 address ++ " already exists"
  | counterAdvanced source highest =>
    s!"Counter for source_chain={source.toNat} advanced to {highest}"
  | committed txId source => s!"TxId PDA created for tx_id={txId} source_chain={source.toNat}"
  | settled txId total =>
    s!"Message processed and TxId PDA closed for tx_id={txId} ({total.toNat} valid signatures)"
  | gatewaySwitched enabled chain =>
    "System " ++ (if enabled then "enabled" else "disabled") ++ s!" for chain {chain.toNat}"
  | gatewayCreated chain authority =>
    s!"Gateway initialized for chain {chain.toNat} with authority " ++ Key.base58 authority
  | counterCreated source address authority =>
    s!"Counter PDA initialized for source_chain_id={source.toNat}, counter_pda=" ++
      Key.base58 address ++ ", authority=" ++ Key.base58 authority
  | registryCreated layer chain signers threshold =>
    "Initialized " ++ layer.name ++ s!" signer registry for chain {chain.toNat} with {signers} " ++
      s!"signers, requiring {threshold.toNat} signatures"
  | signersReplaced layer before after threshold =>
    "Updated " ++ layer.name ++ s!" signer registry: {before} -> {after} signers, " ++
      s!"requiring {threshold.toNat} signatures"
  | signerAdded signer layer total =>
    "Added signer " ++ Key.base58 signer ++ " to " ++ layer.name ++
      s!" registry (total signers: {total})"
  | signerRemoved signer layer remaining =>
    "Removed signer " ++ Key.base58 signer ++ " from " ++ layer.name ++
      s!" registry (remaining signers: {remaining})"
  | thresholdChanged layer before after =>
    "Updated " ++ layer.name ++ s!" registry threshold from {before.toNat} to {after.toNat}"
  | registrySwitched layer enabled =>
    "Set " ++ layer.name ++ " registry enabled status to: " ++ truth enabled
  | requested txId source destination =>
    s!"Message sent: tx_id={txId}, source_chain={source.toNat}, dest_chain={destination.toNat}"

end LogLine

/-- The lines that a call wrote, and how it ended. -/
structure Traced (ε α : Type) where
  log : List LogLine
  outcome : Except ε α

namespace Traced

variable {ε ε' α β : Type}

/-- Ends with a value and writes nothing. -/
def value (a : α) : Traced ε α := ⟨[], .ok a⟩

/-- Fails and writes nothing. -/
def fail (e : ε) : Traced ε α := ⟨[], .error e⟩

def tell (lines : List LogLine) : Traced ε Unit := ⟨lines, .ok ()⟩

def say (line : LogLine) : Traced ε Unit := tell [line]

def ofExcept (result : Except ε α) : Traced ε α := ⟨[], result⟩

/-- One call and then another; a failure ends both. -/
def andThen (x : Traced ε α) (f : α → Traced ε β) : Traced ε β :=
  match x.outcome with
  | .ok a =>
    let y := f a
    ⟨x.log ++ y.log, y.outcome⟩
  | .error e => ⟨x.log, .error e⟩

/-- The same call seen from a place that reports failures in other words. -/
def mapError (f : ε → ε') (x : Traced ε α) : Traced ε' α := ⟨x.log, x.outcome.mapError f⟩

instance : Monad (Traced ε) where
  pure := value
  bind := andThen

instance : MonadLift (Except ε) (Traced ε) where
  monadLift := ofExcept

/-! ## Outcomes -/

@[simp] theorem outcome_pure (a : α) : (pure a : Traced ε α).outcome = .ok a := rfl

@[simp] theorem outcome_fail (e : ε) : (fail e : Traced ε α).outcome = .error e := rfl

@[simp] theorem outcome_tell (lines : List LogLine) :
    (tell lines : Traced ε Unit).outcome = .ok () := rfl

@[simp] theorem outcome_say (line : LogLine) : (say line : Traced ε Unit).outcome = .ok () := rfl

@[simp] theorem outcome_lift (result : Except ε α) :
    (liftM result : Traced ε α).outcome = result := rfl

@[simp] theorem outcome_mapError (f : ε → ε') (x : Traced ε α) :
    (x.mapError f).outcome = x.outcome.mapError f := rfl

theorem outcome_bind (x : Traced ε α) (f : α → Traced ε β) :
    (x >>= f).outcome = x.outcome.bind fun a => (f a).outcome := by
  change (andThen x f).outcome = _
  unfold andThen
  cases x.outcome <;> rfl

theorem outcome_bind_eq_ok {x : Traced ε α} {f : α → Traced ε β} {b : β} :
    (x >>= f).outcome = .ok b ↔ ∃ a, x.outcome = .ok a ∧ (f a).outcome = .ok b := by
  rw [outcome_bind]
  cases x.outcome <;> simp [Except.bind]

theorem outcome_bind_eq_error {x : Traced ε α} {f : α → Traced ε β} {e : ε} :
    (x >>= f).outcome = .error e ↔
      x.outcome = .error e ∨ ∃ a, x.outcome = .ok a ∧ (f a).outcome = .error e := by
  rw [outcome_bind]
  cases x.outcome <;> simp [Except.bind]

end Traced

end RelayGate
