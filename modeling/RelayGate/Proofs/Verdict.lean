import Mathlib.Data.List.Perm.Basic
import RelayGate.Proofs.ApprovalCount
import RelayGate.Proofs.CheckOrder

/-!
# The verdict on a list of signatures

A list is approved when it meets a handful of conditions, in which neither the order of the signatures
nor the way of counting them plays a part (`Layers.Approves`). What the order decides is which error
reports a list that is refused: conditions are looked at one after another, the ones on single signatures
signature by signature, and the first that does not hold is reported (`Layers.checks`).
-/

namespace RelayGate.Layers

variable {l : Layers} {signatures signatures' : List Signature} {digest : Digest} {verify : Verifier}
  {t : Tally} {before : List Key} {r : Registry}

/-! ## Approved lists -/

/-- The layers are satisfied, and the signatures are valid ones of a digest that is somebody's. -/
structure Approves (l : Layers) (signatures : List Signature) (digest : Digest) (verify : Verifier) :
    Prop where
  satisfied : l.Satisfied signatures
  nonzero : digest.isZero = false
  valid : ∀ s ∈ signatures, verify digest s = true

/-- A layer whose count of approvals reaches its threshold lists as many of the signers. -/
theorem threshold_le_listed (hr : r.enabled = true) (hnodup : (signatures.map Signature.signer).Nodup)
    (hvalid : ∀ s ∈ signatures, verify digest s = true)
    (hbounded : signatures.length ≤ Signature.maxPerMessage) :
    r.isSatisfiedBy (r.approvals signatures digest verify) = true ↔
      r.threshold.toNat ≤ r.listed signatures := by
  rw [Registry.isSatisfiedBy, decide_eq_true_eq, UInt8.le_iff_toNat_le,
    Registry.toNat_approvals hr hnodup hvalid hbounded]

theorem approves_of_outcome (h : (l.validate signatures digest verify).outcome = .ok t) :
    l.Approves signatures digest verify := by
  obtain ⟨⟨henough, hbounded⟩, hdigest, hvia, hchain, heach, hthresholds, -⟩ :=
    outcome_validate_eq_ok.1 h
  obtain ⟨hdistinct, hsigned⟩ := outcome_checkEach_eq_ok.1 heach
  obtain ⟨hviaMet, hchainMet, hprojectMet⟩ := checkThresholds_eq_ok.1 hthresholds
  have hvalid : ∀ s ∈ signatures, verify digest s = true := fun s hs => (hsigned s hs).2.1
  refine ⟨?_, hdigest, hvalid⟩
  refine ⟨hvia, hchain, henough, hbounded, hdistinct, ?_, ?_⟩
  · intro s hs
    exact recognizes_eq_true.1 (hsigned s hs).2.2
  · rintro r ⟨rfl | rfl | hproject, henabled⟩
    · exact (threshold_le_listed henabled hdistinct hvalid hbounded).1 hviaMet
    · exact (threshold_le_listed henabled hdistinct hvalid hbounded).1 hchainMet
    · have hactive := activeProject_eq_some.2 ⟨hproject, henabled⟩
      have hmet := hprojectMet r hactive
      simp only [tally, hactive] at hmet
      exact (threshold_le_listed henabled hdistinct hvalid hbounded).1 hmet

theorem outcome_validate_eq_ok_iff :
    (l.validate signatures digest verify).outcome = .ok t ↔
      l.Approves signatures digest verify ∧ l.tally signatures digest verify = t := by
  constructor
  · intro h
    obtain ⟨-, -, -, -, -, -, htally⟩ := outcome_validate_eq_ok.1 h
    exact ⟨approves_of_outcome h, htally⟩
  · rintro ⟨happroves, rfl⟩
    exact happroves.satisfied.outcome_validate happroves.valid happroves.nonzero

/-! ## What counts -/

/-- A tally that counts, for each layer that takes part, the signatures whose signer it lists. The
registry on its own arrives at the same number. -/
structure Counts (l : Layers) (signatures : List Signature) (digest : Digest) (verify : Verifier)
    (t : Tally) : Prop where
  via : t.via = l.via.approvals signatures digest verify ∧ t.via.toNat = l.via.listed signatures
  chain : t.chain = l.chain.approvals signatures digest verify ∧
    t.chain.toNat = l.chain.listed signatures
  project : ∀ project, l.activeProject = some project →
    t.project = project.approvals signatures digest verify ∧
      t.project.toNat = project.listed signatures
  skipped : l.activeProject = none → t.project = 0
  total : t.total.toNat = signatures.length

theorem Approves.counts (h : l.Approves signatures digest verify) :
    l.Counts signatures digest verify (l.tally signatures digest verify) := by
  have hbounded := h.satisfied.bounded
  have hmax : Signature.maxPerMessage = 8 := rfl
  have hlisted : ∀ r : Registry, r.enabled = true →
      (r.approvals signatures digest verify).toNat = r.listed signatures :=
    fun r hr => Registry.toNat_approvals hr h.satisfied.distinct h.valid hbounded
  refine ⟨⟨rfl, hlisted _ h.satisfied.via_enabled⟩, ⟨rfl, hlisted _ h.satisfied.chain_enabled⟩, ?_, ?_, ?_⟩
  · intro project hactive
    simp only [tally, hactive, true_and]
    exact hlisted project (activeProject_eq_some.1 hactive).2
  · intro hnone
    simp only [tally, hnone]
  · rw [tally, UInt8.toNat_ofNat', Nat.mod_eq_of_lt (by omega)]

theorem Satisfied.perm (h : l.Satisfied signatures) (hperm : signatures.Perm signatures') :
    l.Satisfied signatures' where
  via_enabled := h.via_enabled
  chain_enabled := h.chain_enabled
  enough := hperm.length_eq ▸ h.enough
  bounded := hperm.length_eq ▸ h.bounded
  distinct := (hperm.map Signature.signer).nodup_iff.1 h.distinct
  known s hs := h.known s (hperm.mem_iff.2 hs)
  met r hr := by
    have hlisted : r.listed signatures = r.listed signatures' := hperm.countP_eq _
    exact hlisted ▸ h.met r hr

theorem Approves.perm (h : l.Approves signatures digest verify) (hperm : signatures.Perm signatures') :
    l.Approves signatures' digest verify :=
  ⟨h.satisfied.perm hperm, h.nonzero, fun s hs => h.valid s (hperm.mem_iff.2 hs)⟩

theorem tally_perm (hperm : signatures.Perm signatures') :
    l.tally signatures digest verify = l.tally signatures' digest verify := by
  have hcount : ∀ r : Registry,
      r.approvals signatures digest verify = r.approvals signatures' digest verify := by
    intro r
    rw [Registry.approvals_eq_ofNat, Registry.approvals_eq_ofNat,
      Registry.approvalCount_congr rfl (fun _ => Iff.rfl) fun _ => hperm.mem_iff]
  simp only [tally, hcount, hperm.length_eq]

/-! ## Refused lists -/

/-- What is asked of a signature, after signatures of the keys before it. -/
def signatureChecks (l : Layers) (digest : Digest) (verify : Verifier) (before : List Key)
    (s : Signature) : List (Prop × GateError) :=
  [(s.signer ∉ before, .duplicateSigner), (verify digest s = true, .invalidSignature),
    (∃ r, l.TakesPart r ∧ s.signer ∈ r.signers, .unauthorizedSigner)]

/-- What is asked of the signatures, one after the other, after signatures of the keys before them. -/
def eachCheck (l : Layers) (digest : Digest) (verify : Verifier) (before : List Key)
    (signatures : List Signature) : List (Prop × GateError) :=
  (signatures.mapIdx fun i s =>
    l.signatureChecks digest verify (before ++ (signatures.take i).map Signature.signer) s).flatten

/-- What is asked of the number of signatures that each layer lists. -/
def thresholdChecks (l : Layers) (signatures : List Signature) : List (Prop × GateError) :=
  [(l.via.threshold.toNat ≤ l.via.listed signatures, .insufficientViaSignatures),
    (l.chain.threshold.toNat ≤ l.chain.listed signatures, .insufficientChainSignatures),
    (∀ project, l.activeProject = some project →
      project.threshold.toNat ≤ project.listed signatures, .insufficientProjectSignatures)]

/-- All that is asked of a list of signatures, in order. -/
def checks (l : Layers) (signatures : List Signature) (digest : Digest) (verify : Verifier) :
    List (Prop × GateError) :=
  [(Signature.minPerMessage ≤ signatures.length, .tooFewSignatures),
    (signatures.length ≤ Signature.maxPerMessage, .tooManySignatures),
    (digest.isZero = false, .invalidMessageHash),
    (l.via.enabled = true, .signerRegistryDisabled),
    (l.chain.enabled = true, .signerRegistryDisabled)] ++
  l.eachCheck digest verify [] signatures ++ l.thresholdChecks signatures

theorem eachCheck_cons (s : Signature) (rest : List Signature) :
    l.eachCheck digest verify before (s :: rest) =
      l.signatureChecks digest verify before s ++
        l.eachCheck digest verify (before ++ [s.signer]) rest := by
  simp only [eachCheck, List.mapIdx_cons, List.flatten_cons, List.take_zero, List.map_nil,
    List.append_nil, List.take_succ_cons, List.map_cons, List.append_assoc, List.singleton_append]

theorem reportsFirst_checkEach :
    ReportsFirst (l.checkEach digest verify before signatures).outcome
      (l.eachCheck digest verify before signatures) := by
  induction signatures generalizing before with
  | nil => exact .ok_nil
  | cons s rest ih =>
    rw [eachCheck_cons]
    change ReportsFirst (ensure (s.signer ∉ before) GateError.duplicateSigner >>= fun _ => _ :
      Traced GateError Unit).outcome _
    refine .outcome_ensure_bind Iff.rfl fun _ => ?_
    refine .outcome_refuse (iff_of_eq (Bool.not_eq_false _)) (.outcome_refuse ?_ (.outcome_say_bind ih))
    exact (iff_of_eq (Bool.not_eq_false _)).trans recognizes_eq_true

theorem reportsFirst_checkThresholds (hvia : l.via.enabled = true) (hchain : l.chain.enabled = true)
    (hmet : ∀ r : Registry, r.enabled = true →
      (r.isSatisfiedBy (r.approvals signatures digest verify) = true ↔
        r.threshold.toNat ≤ r.listed signatures)) :
    ReportsFirst (l.checkThresholds (l.tally signatures digest verify)) (l.thresholdChecks signatures) := by
  refine .ensure_bind (hmet _ hvia) fun _ => .ensure_bind (hmet _ hchain) fun _ => ?_
  cases hactive : l.activeProject with
  | none => exact .ok (List.forall_mem_singleton.2 nofun)
  | some project =>
    have hproject := hmet project (activeProject_eq_some.1 hactive).2
    simp only [tally, hactive]
    exact .ensure (by simpa using hproject)

theorem reportsFirst_checkCount :
    ReportsFirst (Signature.checkCount signatures)
      [(Signature.minPerMessage ≤ signatures.length, .tooFewSignatures),
        (signatures.length ≤ Signature.maxPerMessage, .tooManySignatures)] :=
  .ensure_bind Iff.rfl fun _ => .ensure Iff.rfl

/-- A list is refused with the error of the first check that it does not pass. -/
theorem reportsFirst_validate :
    ReportsFirst (l.validate signatures digest verify).outcome (l.checks signatures digest verify) := by
  rw [checks, List.append_assoc, ← List.append_nil (l.thresholdChecks signatures)]
  change ReportsFirst _ ([_, _] ++ (_ :: _ :: _ :: (_ ++ (_ ++ _))))
  refine .outcome_bind reportsFirst_checkCount fun _ hcount => ?_
  refine .outcome_ensure_bind Iff.rfl fun _ => ?_
  refine .outcome_ensure_bind Iff.rfl fun hvia => .outcome_ensure_bind Iff.rfl fun hchain => ?_
  refine reportsFirst_checkEach.outcome_bind fun _ heach => ?_
  -- counts of approvals are counts of signatures once the signatures have passed one by one
  obtain ⟨hnodup, hsigned⟩ := outcome_checkEach_eq_ok.1 heach
  have hthresholds := reportsFirst_checkThresholds hvia hchain fun r hr =>
    threshold_le_listed hr hnodup (fun s hs => (hsigned s hs).2.1)
      (Signature.checkCount_eq_ok.1 hcount).2
  exact .outcome_bind hthresholds fun _ _ => .ok_nil

/-! ## The verdict -/

/-- A list is validated exactly when the layers approve it. It then counts for each layer as many
signatures as the layer lists signers of, and does so in any order of the signatures. A list that is
refused is refused for the first check that it does not pass. -/
theorem validate_decides (l : Layers) (signatures : List Signature) (digest : Digest)
    (verify : Verifier) :
    ((∃ t, (l.validate signatures digest verify).outcome = .ok t) ↔
        l.Approves signatures digest verify) ∧
      (∀ t, (l.validate signatures digest verify).outcome = .ok t →
        l.Counts signatures digest verify t) ∧
      (∀ signatures' : List Signature, signatures.Perm signatures' → ∀ t,
        (l.validate signatures digest verify).outcome = .ok t ↔
          (l.validate signatures' digest verify).outcome = .ok t) ∧
      ∀ e, (l.validate signatures digest verify).outcome = .error e ↔
        FirstFault (l.checks signatures digest verify) e := by
  refine ⟨⟨?_, ?_⟩, ?_, ?_, reportsFirst_validate⟩
  · rintro ⟨t, h⟩
    exact approves_of_outcome h
  · intro happroves
    exact ⟨_, outcome_validate_eq_ok_iff.2 ⟨happroves, rfl⟩⟩
  · intro t h
    obtain ⟨happroves, rfl⟩ := outcome_validate_eq_ok_iff.1 h
    exact happroves.counts
  · intro signatures' hperm t
    rw [outcome_validate_eq_ok_iff, outcome_validate_eq_ok_iff, tally_perm hperm]
    exact and_congr_left fun _ => ⟨fun h => h.perm hperm, fun h => h.perm hperm.symm⟩

def exampleLayer (layer : Layer) (signers : List UInt8) : Registry :=
  { layer, authority := .filled 32 42, signers := signers.map (.filled 32), threshold := 1,
    chain := 43113, enabled := true, bump := 255 }

/-- Two keys, each of which two of the layers list. -/
def exampleShared : Layers where
  via := exampleLayer .via [1]
  chain := exampleLayer .chain [1, 2]
  project := some (exampleLayer .project [2])

def exampleSigned (signers : List UInt8) : List Signature :=
  signers.map fun signer => { signer := .filled 32 signer, bytes := .filled 64 signer }

/-- Two signatures count for two layers each. Of a list with several faults, a stranger, a signature
that is not valid and a signer that comes back, the one that comes first is reported. -/
theorem validate_decides_shared_keys :
    let verify : Verifier := fun _ s => s.signer != .filled 32 2
    (exampleShared.validate (exampleSigned [1, 2]) (.filled 32 7) fun _ _ => true).outcome =
        .ok ⟨1, 2, 1, 2⟩ ∧
      exampleShared.Approves (exampleSigned [1, 2]) (.filled 32 7) (fun _ _ => true) ∧
      exampleShared.Counts (exampleSigned [1, 2]) (.filled 32 7) (fun _ _ => true) ⟨1, 2, 1, 2⟩ ∧
      (exampleShared.validate (exampleSigned [2, 1]) (.filled 32 7) fun _ _ => true).outcome =
        .ok ⟨1, 2, 1, 2⟩ ∧
      (exampleShared.validate (exampleSigned [1, 9, 2, 1]) (.filled 32 7) verify).outcome =
        .error .unauthorizedSigner ∧
      FirstFault (exampleShared.checks (exampleSigned [1, 9, 2, 1]) (.filled 32 7) verify)
        .unauthorizedSigner := by
  intro verify
  have hok : (exampleShared.validate (exampleSigned [1, 2]) (.filled 32 7) fun _ _ => true).outcome =
      .ok ⟨1, 2, 1, 2⟩ := by
    decide +kernel
  have hrefused : (exampleShared.validate (exampleSigned [1, 9, 2, 1]) (.filled 32 7) verify).outcome =
      .error .unauthorizedSigner := by
    decide +kernel
  obtain ⟨happroved, hcounts, hperm, -⟩ :=
    validate_decides exampleShared (exampleSigned [1, 2]) (.filled 32 7) fun _ _ => true
  obtain ⟨-, -, -, hfault⟩ :=
    validate_decides exampleShared (exampleSigned [1, 9, 2, 1]) (.filled 32 7) verify
  have hswap : (exampleSigned [1, 2]).Perm (exampleSigned [2, 1]) := .swap _ _ _
  exact ⟨hok, happroved.1 ⟨_, hok⟩, hcounts _ hok, (hperm _ hswap _).1 hok, hrefused,
    (hfault _).1 hrefused⟩

end RelayGate.Layers
