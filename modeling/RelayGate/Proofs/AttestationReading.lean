import RelayGate.Attestation

/-!
# What instructions attest

The data of a checking instruction are read as a whole or not at all, and then give what their entries
of the very instruction point to, in the order of the entries. So an attestation is there exactly when
some entry of some instruction shows it.
-/

namespace RelayGate.Attestation

variable {data : Bytes} {a : Attestation} {attestations : List Attestation} {i : Instruction}
  {instructions : List Instruction} {digest : Digest} {s : Signature}

theorem require_eq_ok {α : Type} {found : Option α} {x : α} : require found = .ok x ↔ found = some x := by
  cases found <;> simp [require]

/-- An entry shows an attestation: it is wholly inside the data, it is about the very instruction, and
what it points to is the attestation. -/
def Shows (data : Bytes) (n : Nat) (a : Attestation) : Prop :=
  ∃ e, Entry.read? data n = some e ∧ e.isLocal = true ∧ e.attestation? data = some a

/-- An entry can be read: it is wholly inside the data, and so is what it points to if it is about the
very instruction. -/
def Readable (data : Bytes) (n : Nat) : Prop :=
  ∃ e, Entry.read? data n = some e ∧ (e.isLocal = true → ∃ a, e.attestation? data = some a)

/-- What an entry attests. -/
def attested? (data : Bytes) (n : Nat) : Option Attestation :=
  (Entry.read? data n).bind fun e => if e.isLocal = true then e.attestation? data else none

theorem attested?_eq_some {n : Nat} : attested? data n = some a ↔ Shows data n a := by
  unfold attested?
  rw [Option.bind_eq_some_iff]
  constructor
  · rintro ⟨e, hread, h⟩
    obtain ⟨hlocal, hshown⟩ := Option.ite_none_right_eq_some.1 h
    exact ⟨e, hread, hlocal, hshown⟩
  · rintro ⟨e, hread, hlocal, hshown⟩
    exact ⟨e, hread, Option.ite_none_right_eq_some.2 ⟨hlocal, hshown⟩⟩

theorem outcome_readEntries_eq_ok {ns : List Nat} :
    (readEntries data ns).outcome = .ok attestations ↔
      (∀ n ∈ ns, Readable data n) ∧ ns.filterMap (attested? data) = attestations := by
  induction ns generalizing attestations with
  | nil => simp [readEntries]
  | cons n rest ih =>
    simp only [readEntries, Traced.outcome_bind_eq_ok, Traced.outcome_lift, require_eq_ok,
      List.forall_mem_cons]
    constructor
    · rintro ⟨e, hread, h⟩
      split at h
      · next hlocal =>
        simp only [Traced.outcome_bind_eq_ok, Traced.outcome_lift, require_eq_ok, Traced.outcome_pure,
          Except.ok.injEq, ih] at h
        obtain ⟨a, hshown, as, ⟨hrest, rfl⟩, rfl⟩ := h
        have hentry : attested? data n = some a := attested?_eq_some.2 ⟨e, hread, hlocal, hshown⟩
        exact ⟨⟨⟨e, hread, fun _ => ⟨a, hshown⟩⟩, hrest⟩, List.filterMap_cons_some hentry⟩
      · next hforeign =>
        simp only [Traced.outcome_bind_eq_ok, Traced.outcome_say, exists_unit_and, ih] at h
        obtain ⟨-, hrest, rfl⟩ := h
        have hentry : attested? data n = none := by simp [attested?, hread, hforeign]
        exact ⟨⟨⟨e, hread, fun hlocal => absurd hlocal hforeign⟩, hrest⟩, List.filterMap_cons_none hentry⟩
    · rintro ⟨⟨⟨e, hread, hinside⟩, hrest⟩, rfl⟩
      refine ⟨e, hread, ?_⟩
      split
      · next hlocal =>
        obtain ⟨a, hshown⟩ := hinside hlocal
        have hentry : attested? data n = some a := attested?_eq_some.2 ⟨e, hread, hlocal, hshown⟩
        simp only [Traced.outcome_bind_eq_ok, Traced.outcome_lift, require_eq_ok, Traced.outcome_pure,
          Except.ok.injEq, ih]
        exact ⟨a, hshown, _, ⟨hrest, rfl⟩, (List.filterMap_cons_some hentry).symm⟩
      · next hforeign =>
        have hentry : attested? data n = none := by simp [attested?, hread, hforeign]
        simp only [Traced.outcome_bind_eq_ok, Traced.outcome_say, exists_unit_and, ih]
        exact ⟨trivial, hrest, (List.filterMap_cons_none hentry).symm⟩

theorem outcome_parse_eq_ok :
    (parse data).outcome = .ok attestations ↔
      ∃ count, data.head? = some count ∧ (∀ n < count.toNat, Readable data n) ∧
        (List.range count.toNat).filterMap (attested? data) = attestations := by
  simp only [parse, Traced.outcome_bind_eq_ok, Traced.outcome_lift, require_eq_ok,
    outcome_readEntries_eq_ok, List.mem_range]

/-- An instruction attests something: it is for the checking program, all of its entries can be read,
and one of them shows the attestation. -/
structure Attests (i : Instruction) (a : Attestation) : Prop where
  program : i.program = .ed25519
  entry : ∃ count, i.data.head? = some count ∧ (∀ n < count.toNat, Readable i.data n) ∧
    ∃ n < count.toNat, Shows i.data n a

theorem mem_ofInstruction : a ∈ ofInstruction i ↔ Attests i a := by
  unfold ofInstruction
  constructor
  · intro ha
    split at ha
    · next hprogram =>
      split at ha
      · next attestations hparse =>
        obtain ⟨count, hcount, hreadable, rfl⟩ := outcome_parse_eq_ok.1 hparse
        obtain ⟨n, hn, hentry⟩ := List.mem_filterMap.1 ha
        exact ⟨hprogram, count, hcount, hreadable, n, List.mem_range.1 hn, attested?_eq_some.1 hentry⟩
      · cases ha
    · cases ha
  · rintro ⟨hprogram, count, hcount, hreadable, n, hn, hshows⟩
    have hparse := outcome_parse_eq_ok.2 ⟨count, hcount, hreadable, rfl⟩
    rw [if_pos hprogram, hparse]
    exact List.mem_filterMap.2 ⟨n, List.mem_range.2 hn, attested?_eq_some.2 hshows⟩

theorem mem_ofInstructions : a ∈ ofInstructions instructions ↔ ∃ i ∈ instructions, Attests i a := by
  simp only [ofInstructions, List.mem_flatMap, mem_ofInstruction]

/-- A signature is verified exactly when it is attested over all of the digest. -/
theorem verifier_eq_true_iff_mem :
    verifier attestations digest s = true ↔
      { signer := s.signer, signature := s.bytes, message := digest.bytes } ∈ attestations := by
  rw [verifier, List.any_eq_true]
  constructor
  · rintro ⟨a, ha, heq⟩
    simp only [Bool.and_eq_true, beq_iff_eq] at heq
    obtain ⟨⟨hsigner, hsignature⟩, hmessage⟩ := heq
    rw [← hsigner, ← hsignature, ← hmessage]
    exact ha
  · intro ha
    exact ⟨_, ha, by simp⟩

theorem verifier_eq_true :
    verifier (ofInstructions instructions) digest s = true ↔
      ∃ i ∈ instructions,
        Attests i { signer := s.signer, signature := s.bytes, message := digest.bytes } := by
  rw [verifier_eq_true_iff_mem, mem_ofInstructions]

end RelayGate.Attestation
