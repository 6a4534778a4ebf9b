import RelayGate.Event
import RelayGate.Proofs.RegistryChanges

/-!
# Registries over their lifetime

A registry is made once and then changed, by calls that may be refused. Whatever they are, it stays well
formed and in its office (`wellFormed_run`), and nobody is left in it only while a Project registry is
switched off. The event that tells what it is now counts its signers exactly, though in one byte.
-/

namespace RelayGate.Registry

variable {r r' : Registry} {layer : Layer} {chain : UInt64} {authority : Key} {signers : List Key}
  {threshold bump : UInt8} {change : Change} {changes : List Change}

/-- The registry that the code of a call leaves, which changes it in place, also where it fails. -/
def step (r : Registry) (change : Change) : Registry := (change.edit.perform r).2

/-- The registry after a list of calls. -/
def run (r : Registry) (changes : List Change) : Registry := changes.foldl step r

/-! ## Single calls -/

theorem step_of_ok (h : r.apply change = .ok r') : r.step change = r' := by
  rw [step, apply_eq_ok.1 h]

/-- A change that is refused leaves the registry as it was. -/
theorem step_of_error {e : GateError} (h : r.apply change = .error e) : r.step change = r := by
  rw [step, apply_eq_error.1 h]

theorem WellFormed.step (hr : r.WellFormed) (change : Change) : (r.step change).WellFormed := by
  cases hchange : r.apply change with
  | ok r' =>
    rw [step_of_ok hchange]
    exact hr.of_apply hchange
  | error e =>
    rw [step_of_error hchange]
    exact hr

theorem sameOffice_step (r : Registry) (change : Change) : r.SameOffice (r.step change) := by
  cases hchange : r.apply change with
  | ok r' =>
    rw [step_of_ok hchange]
    exact sameOffice_of_apply hchange
  | error e =>
    rw [step_of_error hchange]
    exact .refl r

/-- A well-formed registry without signers asks for none, so it is a Project registry that is switched
off. -/
theorem WellFormed.of_signers_eq_nil (hr : r.WellFormed) (h : r.signers = []) :
    r.threshold = 0 ∧ r.layer = .project ∧ r.enabled = false := by
  have hwithin := hr.within
  rw [h, List.length_nil] at hwithin
  have hzero : r.threshold = 0 := UInt8.toNat_inj.1 (Nat.le_zero.1 hwithin)
  exact ⟨hzero, hr.needed hzero⟩

/-- One byte holds the number of signers. -/
theorem WellFormed.event_eq (hr : r.WellFormed) :
    ∃ count, r.event = .registryChanged r.layer r.chain count r.threshold r.enabled ∧
      count.toNat = r.signers.length := by
  have hbounded := hr.bounded
  have hmax : maxSigners = 10 := rfl
  exact ⟨_, rfl, by rw [UInt8.toNat_ofNat', Nat.mod_eq_of_lt (by omega)]⟩

/-! ## Runs -/

theorem WellFormed.run (hr : r.WellFormed) (changes : List Change) : (r.run changes).WellFormed := by
  induction changes generalizing r with
  | nil => exact hr
  | cons change rest ih => exact ih (hr.step change)

theorem sameOffice_run (r : Registry) (changes : List Change) : r.SameOffice (r.run changes) := by
  induction changes generalizing r with
  | nil => exact .refl r
  | cons change rest ih => exact (sameOffice_step r change).trans (ih (r.step change))

/-- A registry that was made, and then changed by any calls, refused or not, is well formed and has
the layer, the chain, the authority and the bump that it was made with. It has no signers only as a
Project registry that is switched off, and its event counts the signers exactly. -/
theorem wellFormed_run (h : create layer chain authority signers threshold bump = .ok r)
    (changes : List Change) :
    (r.run changes).WellFormed ∧
      ((r.run changes).signers = [] → (r.run changes).threshold = 0 ∧
        (r.run changes).layer = .project ∧ (r.run changes).enabled = false) ∧
      ((r.run changes).layer = layer ∧ (r.run changes).chain = chain ∧
        (r.run changes).authority = authority ∧ (r.run changes).bump = bump) ∧
      ∃ count, (r.run changes).event = .registryChanged layer chain count (r.run changes).threshold
          (r.run changes).enabled ∧
        count.toNat = (r.run changes).signers.length := by
  have hwellFormed := (wellFormed_of_create h).run changes
  have hsame := sameOffice_run r changes
  obtain ⟨-, -, rfl⟩ := create_eq_ok.1 h
  refine ⟨hwellFormed, hwellFormed.of_signers_eq_nil,
    ⟨hsame.layer_eq, hsame.chain_eq, hsame.authority_eq, hsame.bump_eq⟩, ?_⟩
  obtain ⟨count, hevent, hcount⟩ := hwellFormed.event_eq
  rw [hsame.layer_eq, hsame.chain_eq] at hevent
  exact ⟨count, hevent, hcount⟩

/-- A Project registry is switched off and loses its only signer, between calls that are refused. -/
theorem wellFormed_run_dissolved :
    let key : Key := .filled 32 1
    let made : Registry :=
      { layer := .project, authority := .filled 32 42, signers := [key], threshold := 1, chain := 43113,
        enabled := true, bump := 255 }
    let changes : List Change :=
      [.removeSigner key, .setThreshold 0, .setEnabled false, .setThreshold 0, .removeSigner key,
        .setEnabled true]
    create .project 43113 (.filled 32 42) [key] 1 255 = .ok made ∧
      made.run changes = { made with signers := [], threshold := 0, enabled := false } ∧
      (made.run changes).WellFormed := by
  intro key made changes
  have hmade : create .project 43113 (.filled 32 42) [key] 1 255 = .ok made := by decide +kernel
  exact ⟨hmade, by decide +kernel, (wellFormed_run hmade changes).1⟩

end RelayGate.Registry
