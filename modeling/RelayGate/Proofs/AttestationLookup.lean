import RelayGate.Proofs.AttestationReading
import RelayGate.Proofs.CallEffects
import RelayGate.Proofs.ShownInstructions

/-!
# Looking attestations up

Every instruction attests on its own: what several of them attest is what each of them does, one after
the other. So an instruction of another program, or one whose data cannot be read, makes no difference to
the others, and a signature that is attested stays so whatever instructions come along. A call sees only
the instructions in front of it (`lookup_is_local`).
-/

namespace RelayGate.Attestation

variable {a : Attestation} {i : Instruction} {instructions more : List Instruction} {digest : Digest}
  {s : Signature} {data : Bytes} {current : Nat}

/-- An instruction vouches for an attestation: it is for the checking program, its data can be read, and
the attestation is among what they attest. -/
def Vouches (i : Instruction) (a : Attestation) : Prop :=
  i.program = .ed25519 ∧ ∃ attestations, (parse i.data).outcome = .ok attestations ∧ a ∈ attestations

/-- An instruction that attests nothing: it is for another program, or its data cannot be read. -/
def Void (i : Instruction) : Prop :=
  i.program ≠ .ed25519 ∨ (parse i.data).outcome = .error .malformed

/-! ## One instruction -/

theorem mem_ofInstruction_iff_vouches : a ∈ ofInstruction i ↔ Vouches i a := by
  unfold ofInstruction Vouches
  by_cases hprogram : i.program = .ed25519
  · rw [if_pos hprogram, and_iff_right hprogram]
    cases (parse i.data).outcome with
    | error e => simp
    | ok attestations => simp
  · rw [if_neg hprogram]
    exact iff_of_false List.not_mem_nil fun h => hprogram h.1

theorem ofInstruction_of_void (h : Void i) : ofInstruction i = [] := by
  rw [List.eq_nil_iff_forall_not_mem]
  intro a ha
  obtain ⟨hprogram, attestations, hparse, -⟩ := mem_ofInstruction_iff_vouches.1 ha
  rcases h with hother | hmalformed
  · exact hother hprogram
  · rw [hmalformed] at hparse
    cases hparse

/-! ## Several instructions -/

theorem ofInstructions_append :
    ofInstructions (instructions ++ more) = ofInstructions instructions ++ ofInstructions more :=
  List.flatMap_append

theorem mem_ofInstructions_iff_vouches :
    a ∈ ofInstructions instructions ↔ ∃ i ∈ instructions, Vouches i a := by
  simp only [ofInstructions, List.mem_flatMap, mem_ofInstruction_iff_vouches]

theorem verifier_eq_true_iff_vouches :
    verifier (ofInstructions instructions) digest s = true ↔
      ∃ i ∈ instructions,
        Vouches i { signer := s.signer, signature := s.bytes, message := digest.bytes } := by
  rw [verifier_eq_true_iff_mem, mem_ofInstructions_iff_vouches]

theorem ofInstructions_of_void (h : Void i) :
    ofInstructions (instructions ++ i :: more) = ofInstructions (instructions ++ more) := by
  have hnone : ofInstructions [i] = [] := by
    rw [ofInstructions, List.flatMap_singleton, ofInstruction_of_void h]
  rw [← List.singleton_append, ofInstructions_append, ofInstructions_append, ofInstructions_append, hnone,
    List.nil_append]

theorem verifier_mono (hsub : instructions ⊆ more)
    (h : verifier (ofInstructions instructions) digest s = true) :
    verifier (ofInstructions more) digest s = true := by
  obtain ⟨i, hi, hvouches⟩ := verifier_eq_true_iff_vouches.1 h
  exact verifier_eq_true_iff_vouches.2 ⟨i, hsub hi, hvouches⟩

/-! ## In front of a call -/

theorem mem_take_iff : i ∈ instructions.take current ↔ ∃ n < current, instructions[n]? = some i := by
  simp only [List.mem_iff_getElem?, List.getElem?_take, Option.ite_none_right_eq_some]

/-- What a call loads is what the instructions in front of it attest. -/
theorem outcome_loadAttestations (h : Instruction.Listed data instructions current) :
    (Program.loadAttestations .instructions data).outcome =
      .ok (ofInstructions (instructions.take current)) :=
  Program.loadAttestations_eq_ok.2 ⟨rfl, _, h.readPreceding_eq, rfl⟩

/-- A signature is verified exactly when an instruction vouches for it over all of the digest. What
instructions attest is put together from what each of them attests: an instruction that attests nothing
can be left out, and more instructions never take an attestation back. While a call runs, just the
instructions in front of it count, whatever data it is shown them in. -/
theorem lookup_is_local (instructions more : List Instruction) :
    (∀ digest s, verifier (ofInstructions instructions) digest s = true ↔
        ∃ i ∈ instructions,
          Vouches i { signer := s.signer, signature := s.bytes, message := digest.bytes }) ∧
      ofInstructions (instructions ++ more) = ofInstructions instructions ++ ofInstructions more ∧
      (∀ i, Void i → ofInstructions (instructions ++ i :: more) = ofInstructions (instructions ++ more)) ∧
      (instructions ⊆ more → ∀ digest s, verifier (ofInstructions instructions) digest s = true →
        verifier (ofInstructions more) digest s = true) ∧
      (∀ data current, Instruction.Listed data instructions current →
        ∃ loaded, (Program.loadAttestations .instructions data).outcome = .ok loaded ∧
          loaded = ofInstructions (instructions.take current) ∧
          ∀ digest s, verifier loaded digest s = true ↔
            ∃ n < current, ∃ i, instructions[n]? = some i ∧
              Vouches i { signer := s.signer, signature := s.bytes, message := digest.bytes }) ∧
      ∀ current ≤ instructions.length,
        (Instruction.encodeList instructions current).length < UInt16.size →
          Instruction.Listed (Instruction.encodeList instructions current) instructions current := by
  refine ⟨fun _ _ => verifier_eq_true_iff_vouches, ofInstructions_append,
    fun _ hvoid => ofInstructions_of_void hvoid, fun hsub _ _ => verifier_mono hsub, ?_, ?_⟩
  · intro data current hlisted
    refine ⟨_, outcome_loadAttestations hlisted, rfl, fun digest s => ?_⟩
    rw [verifier_eq_true_iff_vouches]
    constructor
    · rintro ⟨i, hi, hvouches⟩
      obtain ⟨n, hn, hfound⟩ := mem_take_iff.1 hi
      exact ⟨n, hn, i, hfound, hvouches⟩
    · rintro ⟨n, hn, i, hfound, hvouches⟩
      exact ⟨i, mem_take_iff.2 ⟨n, hn, hfound⟩, hvouches⟩
  · intro current hcurrent hsize
    exact Instruction.listed_encodeList hsize hcurrent

/-- The instruction that has one signature checked over a digest. -/
def exampleCheck (signer : UInt8) : Instruction :=
  { program := .ed25519
    data := (encode? [⟨.filled 32 signer, .filled 64 signer⟩] (List.replicate 32 5)).getD [] }

/-- A check for another program, one that announces a record and has none, and the check of a first
signature; then the call, and behind it the check of a second signature. -/
def exampleSurrounded : List Instruction :=
  [{ exampleCheck 2 with program := .filled 32 9 }, { program := .ed25519, data := [1] }, exampleCheck 1,
    { program := .gate, data := [] }, exampleCheck 2]

/-- The call loads the first signature alone. All instructions together verify the second one too. -/
theorem lookup_is_local_around_a_call :
    Instruction.Listed (Instruction.encodeList exampleSurrounded 3) exampleSurrounded 3 ∧
      (∃ loaded, (Program.loadAttestations .instructions
          (Instruction.encodeList exampleSurrounded 3)).outcome = .ok loaded ∧
        verifier loaded (.filled 32 5) ⟨.filled 32 1, .filled 64 1⟩ = true ∧
        verifier loaded (.filled 32 5) ⟨.filled 32 2, .filled 64 2⟩ = false) ∧
      exampleSurrounded.drop 4 ⊆ exampleSurrounded ∧
      verifier (ofInstructions exampleSurrounded) (.filled 32 5) ⟨.filled 32 2, .filled 64 2⟩ = true ∧
      Void exampleSurrounded[1] ∧
      ofInstructions exampleSurrounded = ofInstructions (exampleSurrounded.eraseIdx 1) := by
  obtain ⟨-, -, -, -, hload, hlisted⟩ := lookup_is_local exampleSurrounded []
  obtain ⟨-, -, -, hmore, -, -⟩ := lookup_is_local (exampleSurrounded.drop 4) exampleSurrounded
  obtain ⟨-, -, hvoid, -, -, -⟩ := lookup_is_local (exampleSurrounded.take 1) (exampleSurrounded.drop 2)
  have hshown : Instruction.Listed (Instruction.encodeList exampleSurrounded 3) exampleSurrounded 3 :=
    hlisted 3 (by decide) (by decide +kernel)
  have hsub : exampleSurrounded.drop 4 ⊆ exampleSurrounded := List.drop_subset _ _
  have hmalformed : Void exampleSurrounded[1] := .inr (by decide +kernel)
  obtain ⟨loaded, hloaded, rfl, -⟩ := hload _ _ hshown
  refine ⟨hshown, ⟨_, hloaded, by decide +kernel, by decide +kernel⟩, hsub, ?_, hmalformed,
    hvoid _ hmalformed⟩
  exact hmore hsub _ _ (by decide +kernel)

end RelayGate.Attestation
