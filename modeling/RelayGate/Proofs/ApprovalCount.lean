import Mathlib.Data.Finset.Card
import Mathlib.Data.Finset.Dedup
import RelayGate.Proofs.Validation

/-!
# The number of approvals

The signatures are gone through one by one, with a list of the keys that were counted so far. What comes
out is the size of a set: of the keys that the registry lists and that have a valid signature somewhere
(`approvals_count_keys`). So the order of signers and signatures plays no part, nor how often one of
them is repeated, and more signatures never count for less.
-/

namespace RelayGate.Registry

variable {r r' : Registry} {digest : Digest} {verify : Verifier} {signatures signatures' : List Signature}

/-- How many of the listed keys have a valid signature. None counts while the registry is switched
off. -/
def approvalCount (r : Registry) (signatures : List Signature) (digest : Digest) (verify : Verifier) :
    Nat :=
  if r.enabled then
    (r.signers.toFinset.filter fun key => ∃ s ∈ signatures, s.signer = key ∧ verify digest s = true).card
  else 0

/-- The keys that are found one by one are those of the set, each once. -/
theorem length_approvers (r : Registry) (signatures : List Signature) (digest : Digest)
    (verify : Verifier) :
    (r.approvers digest verify [] signatures).length = r.approvalCount signatures digest verify := by
  have hnodup : (r.approvers digest verify [] signatures).Nodup := nodup_approvers List.nodup_nil
  unfold approvalCount
  split
  · next henabled =>
    rw [← List.toFinset_card_of_nodup hnodup]
    congr 1
    ext key
    rw [List.mem_toFinset, mem_approvers, Finset.mem_filter, List.mem_toFinset]
    constructor
    · rintro (hcounted | ⟨hknown, hsigned⟩)
      · cases hcounted
      · exact ⟨(recognizes_eq_true.1 hknown).2, hsigned⟩
    · rintro ⟨hlisted, hsigned⟩
      exact .inr ⟨recognizes_eq_true.2 ⟨henabled, hlisted⟩, hsigned⟩
  · next hoff =>
    rw [List.length_eq_zero_iff, List.eq_nil_iff_forall_not_mem]
    intro key hkey
    rcases mem_approvers.1 hkey with hcounted | happroved
    · cases hcounted
    · exact hoff (recognizes_eq_true.1 happroved.recognized).1

theorem approvals_eq_ofNat (r : Registry) (signatures : List Signature) (digest : Digest)
    (verify : Verifier) :
    r.approvals signatures digest verify = UInt8.ofNat (r.approvalCount signatures digest verify) := by
  rw [approvals, length_approvers]

theorem approvalCount_le (r : Registry) (signatures : List Signature) (digest : Digest)
    (verify : Verifier) : r.approvalCount signatures digest verify ≤ r.signers.length := by
  unfold approvalCount
  split
  · exact Nat.le_trans (Finset.card_filter_le _ _) (List.toFinset_card_le _)
  · exact Nat.zero_le _

/-- One byte holds the count of a registry that lists no more keys than that. -/
theorem toNat_approvals_eq_count (hlisted : r.signers.length ≤ 255) :
    (r.approvals signatures digest verify).toNat = r.approvalCount signatures digest verify := by
  have hle := r.approvalCount_le signatures digest verify
  rw [approvals_eq_ofNat, UInt8.toNat_ofNat', Nat.mod_eq_of_lt (by omega)]

/-- Only which keys are listed matters, and which signatures there are. -/
theorem approvalCount_congr (henabled : r'.enabled = r.enabled)
    (hsigners : ∀ key, key ∈ r'.signers ↔ key ∈ r.signers)
    (hsignatures : ∀ s, s ∈ signatures' ↔ s ∈ signatures) :
    r'.approvalCount signatures' digest verify = r.approvalCount signatures digest verify := by
  have hkeys : r'.signers.toFinset = r.signers.toFinset := by
    ext key
    rw [List.mem_toFinset, List.mem_toFinset, hsigners]
  simp only [approvalCount, henabled, hkeys, hsignatures]

theorem approvalCount_mono (hmore : signatures ⊆ signatures') :
    r.approvalCount signatures digest verify ≤ r.approvalCount signatures' digest verify := by
  unfold approvalCount
  split
  · refine Finset.card_le_card (Finset.monotone_filter_right _ fun key _ => ?_)
    rintro ⟨s, hs, hsigned⟩
    exact ⟨s, hmore hs, hsigned⟩
  · exact Nat.le_refl _

/-- The approvals of a list of signatures are counted as a set of keys, which one byte holds unless the
registry lists more of them. They are never more than the registry lists, never fewer for more
signatures, and they authorize exactly when the set reaches the threshold. A registry that lists the same
keys, in another order or repeatedly, counts as many, and so does another list of the same signatures. -/
theorem approvals_count_keys (r : Registry) (signatures : List Signature) (digest : Digest)
    (verify : Verifier) (hlisted : r.signers.length ≤ 255) :
    (r.approvals signatures digest verify).toNat = r.approvalCount signatures digest verify ∧
      (r.approvals signatures digest verify).toNat ≤ r.signers.length ∧
      (r.authorizes signatures digest verify = true ↔
        r.threshold.toNat ≤ r.approvalCount signatures digest verify) ∧
      (∀ signatures', signatures ⊆ signatures' →
        r.approvals signatures digest verify ≤ r.approvals signatures' digest verify) ∧
      ∀ (r' : Registry) (signatures' : List Signature), r'.enabled = r.enabled →
        (∀ key, key ∈ r'.signers ↔ key ∈ r.signers) → (∀ s, s ∈ signatures' ↔ s ∈ signatures) →
          r'.approvals signatures' digest verify = r.approvals signatures digest verify := by
  have hcount : ∀ signatures', (r.approvals signatures' digest verify).toNat =
      r.approvalCount signatures' digest verify := fun _ => toNat_approvals_eq_count hlisted
  refine ⟨hcount signatures, ?_, ?_, ?_, ?_⟩
  · rw [hcount]
    exact r.approvalCount_le signatures digest verify
  · rw [authorizes, isSatisfiedBy, decide_eq_true_eq, UInt8.le_iff_toNat_le, hcount]
  · intro signatures' hmore
    rw [UInt8.le_iff_toNat_le, hcount, hcount]
    exact approvalCount_mono hmore
  · intro r' signatures' henabled hsigners hsignatures
    rw [approvals_eq_ofNat, approvals_eq_ofNat, approvalCount_congr henabled hsigners hsignatures]

/-- Three keys, of which one is listed twice. -/
def exampleRepeated : Registry :=
  { layer := .chain, authority := .filled 32 42, signers := [1, 2, 1, 3].map (.filled 32), threshold := 2,
    chain := 43113, enabled := true, bump := 255 }

/-- Whose signatures they are, and whether they are valid: a key fails before it succeeds and then
repeats itself, a stranger signs, and a listed key only fails. -/
def exampleAttempts : List Signature :=
  [(1, 0), (1, 7), (1, 7), (9, 7), (2, 7), (3, 0)].map fun (signer, byte) =>
    { signer := .filled 32 signer, bytes := .filled 64 byte }

theorem approvals_count_keys_repeated :
    let verify : Verifier := fun _ s => s.bytes == .filled 64 7
    exampleRepeated.signers.length ≤ 255 ∧
      (exampleRepeated.approvals exampleAttempts (.filled 32 1) verify).toNat = 2 ∧
      exampleRepeated.authorizes exampleAttempts (.filled 32 1) verify = true ∧
      exampleAttempts.take 2 ⊆ exampleAttempts ∧
      exampleRepeated.approvals (exampleAttempts.take 2) (.filled 32 1) verify ≤
        exampleRepeated.approvals exampleAttempts (.filled 32 1) verify ∧
      { exampleRepeated with signers := exampleRepeated.signers.tail }.approvals exampleAttempts.reverse
        (.filled 32 1) verify = exampleRepeated.approvals exampleAttempts (.filled 32 1) verify := by
  intro verify
  have hlisted : exampleRepeated.signers.length ≤ 255 := by decide
  have hcount : exampleRepeated.approvalCount exampleAttempts (.filled 32 1) verify = 2 := by
    decide +kernel
  have hsub : exampleAttempts.take 2 ⊆ exampleAttempts := List.take_subset 2 exampleAttempts
  have htail : ∀ key, key ∈ exampleRepeated.signers.tail ↔ key ∈ exampleRepeated.signers := by
    intro key
    simp only [exampleRepeated, List.map_cons, List.map_nil, List.tail_cons, List.mem_cons]
    tauto
  obtain ⟨hnat, -, hauthorizes, -, hsame⟩ :=
    approvals_count_keys exampleRepeated exampleAttempts (.filled 32 1) verify hlisted
  obtain ⟨-, -, -, hmore, -⟩ :=
    approvals_count_keys exampleRepeated (exampleAttempts.take 2) (.filled 32 1) verify hlisted
  refine ⟨hlisted, hnat.trans hcount, hauthorizes.2 ?_, hsub, hmore _ hsub, ?_⟩
  · rw [hcount]
    decide
  · exact hsame _ _ rfl htail fun s => List.mem_reverse

end RelayGate.Registry
