import RelayGate.Proofs.Approval

/-!
# What layers approve

The layers approve a list of signatures in which no signer comes twice, every signature is valid and has
a signer that some layer lists, and each layer that takes part lists as many of the signers as its
threshold asks for (`Layers.Satisfied.outcome_validate`). Where nobody signs twice, a count of approvals is
a count of signatures (`Registry.toNat_approvals`).
-/

namespace RelayGate

namespace Traced

/-- A check that tells why it refuses, in front of the rest of a call. -/
theorem outcome_refuse_eq_ok {ε α : Type} {refused : Prop} [Decidable refused] {line : LogLine} {e : ε}
    {after : Unit → Traced ε α} {rest : Traced ε α} {a : α} :
    (if refused then
        (do
          say line
          let u ← fail e
          after u)
      else rest).outcome = .ok a ↔ ¬refused ∧ rest.outcome = .ok a := by
  by_cases h : refused
  · simp [h, outcome_bind_eq_ok]
  · simp [h]

end Traced

namespace Registry

variable {r : Registry} {digest : Digest} {verify : Verifier} {counted : List Key}
  {signatures : List Signature} {key : Key}

theorem recognizes_eq_true : r.recognizes key = true ↔ r.enabled = true ∧ key ∈ r.signers := by
  rw [recognizes, Bool.and_eq_true, List.contains_iff_mem]

/-- Where no signer comes twice and every signature is valid, the approvers are the signers that the
registry recognizes. -/
theorem approvers_of_nodup (hnodup : (signatures.map Signature.signer).Nodup)
    (hvalid : ∀ s ∈ signatures, s.signer ∉ counted ∧ verify digest s = true) :
    r.approvers digest verify counted signatures =
      counted ++ (signatures.map Signature.signer).filter r.recognizes := by
  induction signatures generalizing counted with
  | nil => exact (List.append_nil counted).symm
  | cons s rest ih =>
    rw [List.map_cons, List.nodup_cons] at hnodup
    obtain ⟨hnew, hs⟩ := hvalid s List.mem_cons_self
    have hrest : ∀ s' ∈ rest, s'.signer ∉ counted ∧ verify digest s' = true :=
      fun s' h => hvalid s' (List.mem_cons_of_mem s h)
    rw [approvers, List.map_cons]
    cases hknown : r.recognizes s.signer with
    | true =>
      rw [if_pos (by simp [hnew, hs]), ih hnodup.2, List.filter_cons_of_pos hknown,
        List.append_assoc, List.singleton_append]
      intro s' h
      refine ⟨fun hmem => ?_, (hrest s' h).2⟩
      rcases List.mem_append.1 hmem with hcounted | hself
      · exact (hrest s' h).1 hcounted
      · exact hnodup.1 (List.mem_map.2 ⟨s', h, List.mem_singleton.1 hself⟩)
    | false =>
      rw [if_neg (by simp), ih hnodup.2 hrest, List.filter_cons_of_neg (by simp [hknown])]

/-- How many signatures have a signer that the registry lists. -/
def listed (r : Registry) (signatures : List Signature) : Nat :=
  signatures.countP fun s => r.signers.contains s.signer

theorem listed_le (r : Registry) (signatures : List Signature) : r.listed signatures ≤ signatures.length :=
  List.countP_le_length

/-- Of so few signatures, each is counted. -/
theorem toNat_approvals (henabled : r.enabled = true)
    (hnodup : (signatures.map Signature.signer).Nodup)
    (hvalid : ∀ s ∈ signatures, verify digest s = true)
    (hbounded : signatures.length ≤ Signature.maxPerMessage) :
    (r.approvals signatures digest verify).toNat = r.listed signatures := by
  have hcount : (r.approvers digest verify [] signatures).length = r.listed signatures := by
    rw [approvers_of_nodup hnodup fun s hs => ⟨List.not_mem_nil, hvalid s hs⟩, List.nil_append,
      ← List.countP_eq_length_filter, List.countP_map, listed]
    refine List.countP_congr fun s _ => ?_
    simp [recognizes_eq_true, henabled]
  have hle := r.listed_le signatures
  have hmax : Signature.maxPerMessage = 8 := rfl
  rw [approvals, hcount, UInt8.toNat_ofNat', Nat.mod_eq_of_lt (by omega)]

end Registry

namespace Layers

variable {l : Layers} {signatures : List Signature} {digest : Digest} {verify : Verifier}
  {u : Unit} {seen : List Key} {key : Key} {r : Registry}

/-- The registry is one of these layers', and switched on. -/
def TakesPart (l : Layers) (r : Registry) : Prop :=
  (r = l.via ∨ r = l.chain ∨ l.project = some r) ∧ r.enabled = true

/-- Whether some layer that takes part lists a key. -/
def recognizes (l : Layers) (key : Key) : Bool :=
  l.via.recognizes key || l.chain.recognizes key || l.projectRecognizes key

theorem projectRecognizes_eq_true :
    l.projectRecognizes key = true ↔
      ∃ project, l.project = some project ∧ project.recognizes key = true := by
  simp only [projectRecognizes, Option.any_eq_true_iff_get, activeProject, Registry.recognizes_eq_true]
  cases l.project with
  | none => simp
  | some project => cases h : project.enabled <;> simp [h]

theorem recognizes_eq_true : l.recognizes key = true ↔ ∃ r, l.TakesPart r ∧ key ∈ r.signers := by
  simp only [recognizes, Bool.or_eq_true, projectRecognizes_eq_true, Registry.recognizes_eq_true]
  constructor
  · rintro ((⟨henabled, hkey⟩ | ⟨henabled, hkey⟩) | ⟨project, hproject, henabled, hkey⟩)
    · exact ⟨l.via, ⟨.inl rfl, henabled⟩, hkey⟩
    · exact ⟨l.chain, ⟨.inr (.inl rfl), henabled⟩, hkey⟩
    · exact ⟨project, ⟨.inr (.inr hproject), henabled⟩, hkey⟩
  · rintro ⟨r, ⟨rfl | rfl | hproject, henabled⟩, hkey⟩
    · exact .inl (.inl ⟨henabled, hkey⟩)
    · exact .inl (.inr ⟨henabled, hkey⟩)
    · exact .inr ⟨r, hproject, henabled, hkey⟩

/-- What is asked of the first signature, and then of the rest. -/
theorem outcome_checkEach_cons_eq_ok {s : Signature} {rest : List Signature} :
    (l.checkEach digest verify seen (s :: rest)).outcome = .ok u ↔
      s.signer ∉ seen ∧ verify digest s = true ∧ l.recognizes s.signer = true ∧
        (l.checkEach digest verify (seen ++ [s.signer]) rest).outcome = .ok u := by
  change (ensure (s.signer ∉ seen) GateError.duplicateSigner >>= fun _ => _ :
    Traced GateError Unit).outcome = .ok u ↔ _
  simp only [Traced.outcome_bind_eq_ok, Traced.outcome_lift, ensure_eq_ok, Traced.outcome_refuse_eq_ok,
    Traced.outcome_say, exists_unit_and, true_and, Bool.not_eq_false]
  exact Iff.rfl

/-- The list passes signature by signature: no signer comes twice, every signature is valid, and some
layer that takes part lists its signer. -/
theorem outcome_checkEach_eq_ok :
    (l.checkEach digest verify seen signatures).outcome = .ok u ↔
      (signatures.map Signature.signer).Nodup ∧
        ∀ s ∈ signatures, s.signer ∉ seen ∧ verify digest s = true ∧ l.recognizes s.signer = true := by
  induction signatures generalizing seen with
  | nil => exact iff_of_true rfl ⟨List.nodup_nil, nofun⟩
  | cons s rest ih =>
    simp only [outcome_checkEach_cons_eq_ok, ih, List.map_cons, List.nodup_cons, List.forall_mem_cons,
      List.mem_append, List.mem_singleton, not_or]
    constructor
    · rintro ⟨hnew, hvalid, hknown, hnodup, hrest⟩
      refine ⟨⟨?_, hnodup⟩, ⟨hnew, hvalid, hknown⟩, ?_⟩
      · intro hmem
        obtain ⟨s', hs', hsigner⟩ := List.mem_map.1 hmem
        exact (hrest s' hs').1.2 hsigner
      · intro s' hs'
        obtain ⟨⟨hunseen, -⟩, hchecked⟩ := hrest s' hs'
        exact ⟨hunseen, hchecked⟩
    · rintro ⟨⟨hother, hnodup⟩, ⟨hnew, hvalid, hknown⟩, hrest⟩
      refine ⟨hnew, hvalid, hknown, hnodup, fun s' hs' => ⟨⟨(hrest s' hs').1, ?_⟩, (hrest s' hs').2⟩⟩
      intro hsigner
      exact hother (List.mem_map.2 ⟨s', hs', hsigner⟩)

/-- The list is one that the layers approve once its signatures are valid: the mandatory layers take
part, no signer comes twice, each is listed somewhere, and each layer that takes part lists enough of
them. -/
structure Satisfied (l : Layers) (signatures : List Signature) : Prop where
  via_enabled : l.via.enabled = true
  chain_enabled : l.chain.enabled = true
  enough : Signature.minPerMessage ≤ signatures.length
  bounded : signatures.length ≤ Signature.maxPerMessage
  distinct : (signatures.map Signature.signer).Nodup
  known : ∀ s ∈ signatures, ∃ r, l.TakesPart r ∧ s.signer ∈ r.signers
  met : ∀ r, l.TakesPart r → r.threshold.toNat ≤ r.listed signatures

theorem Satisfied.isSatisfiedBy (h : l.Satisfied signatures)
    (hvalid : ∀ s ∈ signatures, verify digest s = true) (hr : l.TakesPart r) :
    r.isSatisfiedBy (r.approvals signatures digest verify) = true := by
  rw [Registry.isSatisfiedBy, decide_eq_true_eq, UInt8.le_iff_toNat_le,
    Registry.toNat_approvals hr.2 h.distinct hvalid h.bounded]
  exact h.met r hr

/-- Such a list is approved, and counts as it is. -/
theorem Satisfied.outcome_validate (h : l.Satisfied signatures)
    (hvalid : ∀ s ∈ signatures, verify digest s = true) (hdigest : digest.isZero = false) :
    (l.validate signatures digest verify).outcome = .ok (l.tally signatures digest verify) := by
  refine outcome_validate_eq_ok.2 ⟨⟨h.enough, h.bounded⟩, hdigest, h.via_enabled, h.chain_enabled, ?_, ?_,
    rfl⟩
  · refine outcome_checkEach_eq_ok.2 ⟨h.distinct, fun s hs => ?_⟩
    exact ⟨List.not_mem_nil, hvalid s hs, recognizes_eq_true.2 (h.known s hs)⟩
  · refine checkThresholds_eq_ok.2 ⟨h.isSatisfiedBy hvalid ⟨.inl rfl, h.via_enabled⟩,
      h.isSatisfiedBy hvalid ⟨.inr (.inl rfl), h.chain_enabled⟩, fun project hproject => ?_⟩
    obtain ⟨hlayer, henabled⟩ := activeProject_eq_some.1 hproject
    simp only [tally, hproject]
    exact h.isSatisfiedBy hvalid ⟨.inr (.inr hlayer), henabled⟩

end Layers

end RelayGate
