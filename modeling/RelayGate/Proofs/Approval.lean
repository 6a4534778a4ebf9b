import Mathlib.Data.List.Nodup
import RelayGate.Proofs.Phases

/-!
# Approvals

What counts for a registry is the set of its keys that have a valid signature in the list: each key
counts once, however often it signed and whatever stands in between. A list that is validated has
enough such keys for each layer that takes part.
-/

namespace RelayGate

namespace Registry

variable {r : Registry} {digest : Digest} {verify : Verifier} {counted : List Key}
  {signatures : List Signature} {key : Key}

/-- A key approves a digest: the registry recognizes it, and one of its signatures is valid. -/
structure ApprovedBy (r : Registry) (digest : Digest) (verify : Verifier) (signatures : List Signature)
    (key : Key) : Prop where
  recognized : r.recognizes key = true
  signed : ∃ s ∈ signatures, s.signer = key ∧ verify digest s = true

theorem approvedBy_nil : ¬r.ApprovedBy digest verify [] key := by
  rintro ⟨-, s, hs, -⟩
  cases hs

theorem approvedBy_cons {s : Signature} :
    r.ApprovedBy digest verify (s :: signatures) key ↔
      (r.recognizes s.signer = true ∧ verify digest s = true ∧ key = s.signer) ∨
        r.ApprovedBy digest verify signatures key := by
  constructor
  · rintro ⟨hkey, s', hs', rfl, hvalid⟩
    rcases List.mem_cons.1 hs' with rfl | hs'
    · exact Or.inl ⟨hkey, hvalid, rfl⟩
    · exact Or.inr ⟨hkey, s', hs', rfl, hvalid⟩
  · rintro (⟨hkey, hvalid, rfl⟩ | ⟨hkey, s', hs', hsigner, hvalid⟩)
    · exact ⟨hkey, s, by simp, rfl, hvalid⟩
    · exact ⟨hkey, s', by simp [hs'], hsigner, hvalid⟩

theorem mem_approvers :
    key ∈ r.approvers digest verify counted signatures ↔
      key ∈ counted ∨ r.ApprovedBy digest verify signatures key := by
  induction signatures generalizing counted with
  | nil => simp [approvers, approvedBy_nil]
  | cons s rest ih =>
    unfold approvers
    rw [approvedBy_cons]
    split
    · next hcounts =>
      simp only [Bool.and_eq_true, Bool.not_eq_true', List.contains_eq_mem] at hcounts
      obtain ⟨⟨hknown, -⟩, hvalid⟩ := hcounts
      rw [ih, List.mem_append, List.mem_singleton]
      simp only [hknown, hvalid, true_and, or_assoc]
    · next hskipped =>
      rw [ih]
      constructor
      · rintro (hcounted | happroved)
        · exact Or.inl hcounted
        · exact Or.inr (Or.inr happroved)
      · rintro (hcounted | ⟨hknown, hvalid, rfl⟩ | happroved)
        · exact Or.inl hcounted
        · -- a valid signature of a listed key is skipped only when the key is counted already
          left
          by_contra hnew
          exact hskipped (by simp [hknown, hvalid, hnew])
        · exact Or.inr happroved

theorem nodup_approvers (h : counted.Nodup) : (r.approvers digest verify counted signatures).Nodup := by
  induction signatures generalizing counted with
  | nil => exact h
  | cons s rest ih =>
    unfold approvers
    split
    · next hcounts =>
      simp only [Bool.and_eq_true, Bool.not_eq_true', List.contains_eq_mem, decide_eq_false_iff_not]
        at hcounts
      refine ih (List.nodup_append.2 ⟨h, List.nodup_singleton _, ?_⟩)
      rintro a ha b hb rfl
      obtain rfl := List.mem_singleton.1 hb
      exact hcounts.1.2 ha
    · exact ih h

/-- A threshold is met by different keys, each of which approves. -/
def HasQuorum (r : Registry) (digest : Digest) (verify : Verifier) (signatures : List Signature) : Prop :=
  ∃ keys : List Key, keys.Nodup ∧ r.threshold.toNat ≤ keys.length ∧
    ∀ key ∈ keys, r.ApprovedBy digest verify signatures key

/-- Counting in one byte can only lose approvals, so a threshold that the count reaches is met. -/
theorem hasQuorum_of_isSatisfiedBy
    (h : r.isSatisfiedBy (r.approvals signatures digest verify) = true) :
    r.HasQuorum digest verify signatures := by
  refine ⟨r.approvers digest verify [] signatures, nodup_approvers List.nodup_nil, ?_, ?_⟩
  · simp only [isSatisfiedBy, approvals, decide_eq_true_eq, UInt8.le_iff_toNat_le,
      UInt8.toNat_ofNat'] at h
    exact Nat.le_trans h (Nat.mod_le _ _)
  · intro key hkey
    exact (mem_approvers.1 hkey).resolve_left List.not_mem_nil

end Registry

namespace Layers

variable {l : Layers} {signatures : List Signature} {digest : Digest} {verify : Verifier} {t : Tally}
  {u : Unit}

theorem checkThresholds_eq_ok :
    l.checkThresholds t = .ok u ↔
      l.via.isSatisfiedBy t.via = true ∧ l.chain.isSatisfiedBy t.chain = true ∧
        ∀ project, l.activeProject = some project → project.isSatisfiedBy t.project = true := by
  simp only [checkThresholds, except_bind_eq_ok, ensure_eq_ok, exists_unit_and]
  cases l.activeProject with
  | none => simp [except_pure_eq_ok]
  | some project => simp

theorem outcome_validate_eq_ok :
    (l.validate signatures digest verify).outcome = .ok t ↔
      (Signature.minPerMessage ≤ signatures.length ∧ signatures.length ≤ Signature.maxPerMessage) ∧
        digest.isZero = false ∧ l.via.enabled = true ∧ l.chain.enabled = true ∧
        (l.checkEach digest verify [] signatures).outcome = .ok () ∧
        l.checkThresholds (l.tally signatures digest verify) = .ok () ∧
        l.tally signatures digest verify = t := by
  simp only [validate, Traced.outcome_bind_eq_ok, Traced.outcome_lift, Traced.outcome_say,
    Traced.outcome_pure, Signature.checkCount_eq_ok, checkDigest_eq_ok, ensure_eq_ok,
    exists_unit_and, true_and, Except.ok.injEq]

theorem activeProject_eq_some {project : Registry} :
    l.activeProject = some project ↔ l.project = some project ∧ project.enabled = true := by
  rw [activeProject, Option.filter_eq_some_iff]

/-- What the validation of a list guarantees for each layer that takes part. -/
theorem hasQuorum_of_validate (h : (l.validate signatures digest verify).outcome = .ok t) :
    (l.via.enabled = true ∧ l.via.HasQuorum digest verify signatures) ∧
      (l.chain.enabled = true ∧ l.chain.HasQuorum digest verify signatures) ∧
        ∀ project, l.project = some project → project.enabled = true →
          project.HasQuorum digest verify signatures := by
  obtain ⟨-, -, hvia, hchain, -, hthresholds, -⟩ := outcome_validate_eq_ok.1 h
  obtain ⟨hviaMet, hchainMet, hprojectMet⟩ := checkThresholds_eq_ok.1 hthresholds
  refine ⟨⟨hvia, Registry.hasQuorum_of_isSatisfiedBy hviaMet⟩,
    ⟨hchain, Registry.hasQuorum_of_isSatisfiedBy hchainMet⟩, ?_⟩
  intro project hproject henabled
  have hactive := activeProject_eq_some.2 ⟨hproject, henabled⟩
  have hmet := hprojectMet project hactive
  simp only [tally, hactive] at hmet
  exact Registry.hasQuorum_of_isSatisfiedBy hmet

end Layers

end RelayGate
