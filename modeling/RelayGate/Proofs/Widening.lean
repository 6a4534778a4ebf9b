import RelayGate.Proofs.RegistryChanges
import RelayGate.Proofs.Verdict

/-!
# Widening registries

Layers that list more signers, or ask for fewer of them, approve whatever was approved before
(`Approves.of_covers`), and count at least as much for each layer. What matters of a list of signers is
only who of them has signed: where signers leave who have not, the layers cover each other in both
directions, so the verdict stays as it was to the last count.
-/

namespace RelayGate

variable {signatures : List Signature} {digest : Digest} {verify : Verifier}

/-! ## Registries -/

namespace Registry

variable {r r' : Registry} {key : Key} {threshold : UInt8}

/-- A registry does for these signatures what another one does: it lists all of their signers that the
other one lists, and asks for no more of them. -/
structure Covers (signatures : List Signature) (r r' : Registry) : Prop where
  enabled_eq : r'.enabled = r.enabled
  threshold_le : r'.threshold ≤ r.threshold
  mem_signers : ∀ s ∈ signatures, s.signer ∈ r.signers → s.signer ∈ r'.signers

theorem Covers.refl (signatures : List Signature) (r : Registry) : Covers signatures r r :=
  ⟨rfl, UInt8.le_refl _, fun _ _ => id⟩

theorem Covers.listed_le (h : Covers signatures r r') : r.listed signatures ≤ r'.listed signatures :=
  List.countP_mono_left fun s hs hlisted =>
    List.contains_iff_mem.2 (h.mem_signers s hs (List.contains_iff_mem.1 hlisted))

theorem covers_of_addSigner (h : r.apply (.addSigner key) = .ok r') : Covers signatures r r' := by
  obtain ⟨-, -, rfl⟩ := addSigner_eq_ok.1 h
  exact ⟨rfl, UInt8.le_refl _, fun _ _ => List.mem_append_left _⟩

theorem covers_of_setThreshold (h : r.apply (.setThreshold threshold) = .ok r')
    (hle : threshold ≤ r.threshold) : Covers signatures r r' := by
  obtain ⟨-, rfl⟩ := setThreshold_eq_ok.1 h
  exact ⟨rfl, hle, fun _ _ => id⟩

/-- The registry that a signer leaves is covered in any case, and covers the one before where the signer
has not signed. -/
theorem covers_of_removeSigner (h : r.apply (.removeSigner key) = .ok r')
    (hunsigned : ∀ s ∈ signatures, s.signer ≠ key) :
    Covers signatures r r' ∧ Covers signatures r' r := by
  obtain ⟨-, -, rfl⟩ := removeSigner_eq_ok.1 h
  refine ⟨⟨rfl, UInt8.le_refl _, fun s hs => ?_⟩, ⟨rfl, UInt8.le_refl _, fun _ _ => List.mem_of_mem_erase⟩⟩
  exact (List.mem_erase_of_ne (hunsigned s hs)).2

end Registry

/-! ## Layers -/

/-- Counts for each layer that are at least as high, of as many signatures. -/
structure Tally.AtMost (t t' : Tally) : Prop where
  via : t.via ≤ t'.via
  chain : t.chain ≤ t'.chain
  project : t.project ≤ t'.project
  total : t'.total = t.total

theorem Tally.AtMost.antisymm {t t' : Tally} (h : t.AtMost t') (h' : t'.AtMost t) : t = t' := by
  cases t
  cases t'
  rw [Tally.mk.injEq]
  exact ⟨UInt8.le_antisymm h.via h'.via, UInt8.le_antisymm h.chain h'.chain,
    UInt8.le_antisymm h.project h'.project, h'.total⟩

namespace Layers

variable {l l' : Layers} {layer : Layer} {r r' : Registry} {t t' : Tally}

/-- The registry that is supplied for a layer. -/
def supplied? (l : Layers) : Layer → Option Registry
  | .via => some l.via
  | .chain => some l.chain
  | .project => l.project

/-- The layers with another registry for one of them. -/
def setRegistry (l : Layers) (r : Registry) : Layer → Layers
  | .via => { l with via := r }
  | .chain => { l with chain := r }
  | .project => { l with project := some r }

theorem supplied?_setRegistry (other : Layer) :
    (l.setRegistry r layer).supplied? other = if other = layer then some r else l.supplied? other := by
  cases layer <;> cases other <;> rfl

theorem supplied?_setRegistry_self : (l.setRegistry r layer).supplied? layer = some r := by
  rw [supplied?_setRegistry, if_pos rfl]

theorem takesPart_iff : l.TakesPart r ↔ (∃ layer, l.supplied? layer = some r) ∧ r.enabled = true := by
  refine and_congr_left fun _ => ⟨?_, ?_⟩
  · rintro (rfl | rfl | hproject)
    · exact ⟨.via, rfl⟩
    · exact ⟨.chain, rfl⟩
    · exact ⟨.project, hproject⟩
  · rintro ⟨layer, h⟩
    cases layer with
    | via => exact .inl (Option.some.inj h).symm
    | chain => exact .inr (.inl (Option.some.inj h).symm)
    | project => exact .inr (.inr h)

/-- Layers cover others when each registry covers the one in its place. -/
def Covers (signatures : List Signature) (l l' : Layers) : Prop :=
  ∀ layer, Option.Rel (Registry.Covers signatures) (l.supplied? layer) (l'.supplied? layer)

theorem covers_setRegistry (hr : l.supplied? layer = some r) (h : Registry.Covers signatures r r') :
    l.Covers signatures (l.setRegistry r' layer) := by
  intro other
  rw [supplied?_setRegistry]
  split
  · next hother =>
    rw [hother, hr]
    exact .some h
  · cases l.supplied? other with
    | none => exact .none
    | some r => exact .some (.refl signatures r)

theorem setRegistry_setRegistry (hr : l.supplied? layer = some r) :
    (l.setRegistry r' layer).setRegistry r layer = l := by
  cases layer with
  | via =>
    cases hr
    rfl
  | chain =>
    cases hr
    rfl
  | project =>
    obtain ⟨via, chain, project⟩ := l
    cases hr
    rfl

theorem Covers.exists_registry (h : l.Covers signatures l') (hr : l.supplied? layer = some r) :
    ∃ r', l'.supplied? layer = some r' ∧ Registry.Covers signatures r r' := by
  have hlayer := h layer
  generalize l'.supplied? layer = found at hlayer ⊢
  rw [hr] at hlayer
  cases hlayer with
  | some hcovers => exact ⟨_, rfl, hcovers⟩

theorem Covers.exists_covered (h : l.Covers signatures l') (hr' : l'.supplied? layer = some r') :
    ∃ r, l.supplied? layer = some r ∧ Registry.Covers signatures r r' := by
  have hlayer := h layer
  generalize l.supplied? layer = found at hlayer ⊢
  rw [hr'] at hlayer
  cases hlayer with
  | some hcovers => exact ⟨_, rfl, hcovers⟩

theorem Covers.via (h : l.Covers signatures l') : Registry.Covers signatures l.via l'.via :=
  match h .via with
  | .some hcovers => hcovers

theorem Covers.chain (h : l.Covers signatures l') : Registry.Covers signatures l.chain l'.chain :=
  match h .chain with
  | .some hcovers => hcovers

theorem Covers.exists_activeProject (h : l.Covers signatures l') (hr : l.activeProject = some r) :
    ∃ r', l'.activeProject = some r' ∧ Registry.Covers signatures r r' := by
  obtain ⟨hproject, henabled⟩ := activeProject_eq_some.1 hr
  have hlayer : l.supplied? .project = some r := hproject
  obtain ⟨r', hproject', hcovers⟩ := h.exists_registry hlayer
  exact ⟨r', activeProject_eq_some.2 ⟨hproject', hcovers.enabled_eq.trans henabled⟩, hcovers⟩

theorem Satisfied.of_covers (h : l.Satisfied signatures) (hc : l.Covers signatures l') :
    l'.Satisfied signatures where
  via_enabled := hc.via.enabled_eq.trans h.via_enabled
  chain_enabled := hc.chain.enabled_eq.trans h.chain_enabled
  enough := h.enough
  bounded := h.bounded
  distinct := h.distinct
  known s hs := by
    obtain ⟨r, hr, hlisted⟩ := h.known s hs
    obtain ⟨⟨layer, hlayer⟩, henabled⟩ := takesPart_iff.1 hr
    obtain ⟨r', hlayer', hcovers⟩ := hc.exists_registry hlayer
    exact ⟨r', takesPart_iff.2 ⟨⟨layer, hlayer'⟩, hcovers.enabled_eq.trans henabled⟩,
      hcovers.mem_signers s hs hlisted⟩
  met r' hr' := by
    obtain ⟨⟨layer, hlayer'⟩, henabled'⟩ := takesPart_iff.1 hr'
    obtain ⟨r, hlayer, hcovers⟩ := hc.exists_covered hlayer'
    have hr : l.TakesPart r :=
      takesPart_iff.2 ⟨⟨layer, hlayer⟩, hcovers.enabled_eq.symm.trans henabled'⟩
    calc r'.threshold.toNat ≤ r.threshold.toNat := UInt8.le_iff_toNat_le.1 hcovers.threshold_le
      _ ≤ r.listed signatures := h.met r hr
      _ ≤ r'.listed signatures := hcovers.listed_le

theorem Approves.of_covers (h : l.Approves signatures digest verify) (hc : l.Covers signatures l') :
    l'.Approves signatures digest verify :=
  ⟨h.satisfied.of_covers hc, h.nonzero, h.valid⟩

theorem Counts.atMost (h : l.Counts signatures digest verify t)
    (h' : l'.Counts signatures digest verify t') (hc : l.Covers signatures l') : t.AtMost t' where
  via := by
    rw [UInt8.le_iff_toNat_le, h.via.2, h'.via.2]
    exact hc.via.listed_le
  chain := by
    rw [UInt8.le_iff_toNat_le, h.chain.2, h'.chain.2]
    exact hc.chain.listed_le
  project := by
    cases hproject : l.activeProject with
    | none =>
      rw [h.skipped hproject]
      exact UInt8.zero_le
    | some project =>
      obtain ⟨project', hproject', hcovers⟩ := hc.exists_activeProject hproject
      rw [UInt8.le_iff_toNat_le, (h.project _ hproject).2, (h'.project _ hproject').2]
      exact hcovers.listed_le
  total := UInt8.toNat_inj.1 (h'.total.trans h.total.symm)

/-- What layers approve is approved by layers that cover them, which count as much and perhaps more. -/
theorem exists_outcome_of_covers (h : (l.validate signatures digest verify).outcome = .ok t)
    (hc : l.Covers signatures l') :
    ∃ t', (l'.validate signatures digest verify).outcome = .ok t' ∧ t.AtMost t' := by
  obtain ⟨happroves, rfl⟩ := outcome_validate_eq_ok_iff.1 h
  have happroves' := happroves.of_covers hc
  exact ⟨_, outcome_validate_eq_ok_iff.2 ⟨happroves', rfl⟩, happroves.counts.atMost happroves'.counts hc⟩

/-- Layers that cover each other come to the same verdict. -/
theorem outcome_of_covers (h : (l.validate signatures digest verify).outcome = .ok t)
    (hc : l.Covers signatures l') (hc' : l'.Covers signatures l) :
    (l'.validate signatures digest verify).outcome = .ok t := by
  obtain ⟨t', h', hle⟩ := exists_outcome_of_covers h hc
  obtain ⟨t'', h'', hle'⟩ := exists_outcome_of_covers h' hc'
  obtain rfl : t = t'' := Except.ok.inj (h.symm.trans h'')
  rw [h', hle.antisymm hle']

/-! ## Changes of one registry -/

/-- A list that is approved stays approved when one of the registries takes in a signer or lowers its
threshold: no layer counts less, and the total is the same. When a registry loses a signer who has not
signed, the verdict stays the same in all counts. -/
theorem widening_keeps_approval (h : (l.validate signatures digest verify).outcome = .ok t)
    (hr : l.supplied? layer = some r) :
    (∀ key r', r.apply (.addSigner key) = .ok r' →
        ∃ t', ((l.setRegistry r' layer).validate signatures digest verify).outcome = .ok t' ∧
          t.AtMost t') ∧
      (∀ threshold r', threshold ≤ r.threshold → r.apply (.setThreshold threshold) = .ok r' →
        ∃ t', ((l.setRegistry r' layer).validate signatures digest verify).outcome = .ok t' ∧
          t.AtMost t') ∧
      ∀ key r', (∀ s ∈ signatures, s.signer ≠ key) → r.apply (.removeSigner key) = .ok r' →
        ((l.setRegistry r' layer).validate signatures digest verify).outcome = .ok t := by
  refine ⟨fun key r' hadd => ?_, fun threshold r' hle hset => ?_, fun key r' hunsigned hremove => ?_⟩
  · exact exists_outcome_of_covers h (covers_setRegistry hr (Registry.covers_of_addSigner hadd))
  · exact exists_outcome_of_covers h (covers_setRegistry hr (Registry.covers_of_setThreshold hset hle))
  · obtain ⟨hcovers, hcovers'⟩ := Registry.covers_of_removeSigner hremove hunsigned
    have hback : (l.setRegistry r' layer).Covers signatures
        ((l.setRegistry r' layer).setRegistry r layer) :=
      covers_setRegistry supplied?_setRegistry_self hcovers'
    rw [setRegistry_setRegistry hr] at hback
    exact outcome_of_covers h (covers_setRegistry hr hcovers) hback

/-- The layers of `exampleShared`, where the Chain layer asks for two signers and has a third one. -/
def exampleStrict : Layers :=
  { exampleShared with chain := { exampleLayer .chain [1, 2, 9] with threshold := 2 } }

/-- The Via layer takes in a key that has signed for the other ones, and counts it from then on. The Chain
layer asks for one signer less, or loses the one who has not signed, and counts as before. -/
theorem widening_keeps_approval_strict :
    let verify : Verifier := fun _ _ => true
    let verdict (l : Layers) := (l.validate (exampleSigned [1, 2]) (.filled 32 7) verify).outcome
    let via := exampleLayer .via [1, 2]
    let lenient := exampleLayer .chain [1, 2, 9]
    let smaller := { exampleLayer .chain [1, 2] with threshold := 2 }
    verdict exampleStrict = .ok ⟨1, 2, 1, 2⟩ ∧
      exampleStrict.via.apply (.addSigner (.filled 32 2)) = .ok via ∧
      (∃ t, verdict (exampleStrict.setRegistry via .via) = .ok t ∧ Tally.AtMost ⟨1, 2, 1, 2⟩ t) ∧
      verdict (exampleStrict.setRegistry via .via) = .ok ⟨2, 2, 1, 2⟩ ∧
      (1 ≤ exampleStrict.chain.threshold ∧ exampleStrict.chain.apply (.setThreshold 1) = .ok lenient) ∧
      (∃ t, verdict (exampleStrict.setRegistry lenient .chain) = .ok t ∧
        Tally.AtMost ⟨1, 2, 1, 2⟩ t) ∧
      ((∀ s ∈ exampleSigned [1, 2], s.signer ≠ .filled 32 9) ∧
        exampleStrict.chain.apply (.removeSigner (.filled 32 9)) = .ok smaller) ∧
      verdict (exampleStrict.setRegistry smaller .chain) = .ok ⟨1, 2, 1, 2⟩ := by
  intro verify verdict via lenient smaller
  have hverdict : verdict exampleStrict = .ok ⟨1, 2, 1, 2⟩ := by decide +kernel
  have hadd : exampleStrict.via.apply (.addSigner (.filled 32 2)) = .ok via := by decide +kernel
  have hle : 1 ≤ exampleStrict.chain.threshold := by decide +kernel
  have hset : exampleStrict.chain.apply (.setThreshold 1) = .ok lenient := by decide +kernel
  have hunsigned : ∀ s ∈ exampleSigned [1, 2], s.signer ≠ .filled 32 9 := by decide +kernel
  have hremove : exampleStrict.chain.apply (.removeSigner (.filled 32 9)) = .ok smaller := by decide +kernel
  have hvia : exampleStrict.supplied? .via = some exampleStrict.via := rfl
  have hchain : exampleStrict.supplied? .chain = some exampleStrict.chain := rfl
  obtain ⟨hwider, -, -⟩ := widening_keeps_approval hverdict hvia
  obtain ⟨-, hlower, hleft⟩ := widening_keeps_approval hverdict hchain
  exact ⟨hverdict, hadd, hwider _ _ hadd, by decide +kernel, ⟨hle, hset⟩, hlower _ _ hle hset,
    ⟨hunsigned, hremove⟩, hleft _ _ hunsigned hremove⟩

end Layers

end RelayGate
