import RelayGate.Proofs.AttestationWriting
import RelayGate.Proofs.LedgerDelivery
import RelayGate.Proofs.Validation

/-!
# Deliveries stay open

Once a message is committed it can be settled, at any later time until it is: its marker stays where it
is (`Outstanding.present`), so a settlement only depends on how the gateway and the registries stand then
(`Admits`). Failed attempts, deliveries of other messages and changes of the configuration in between do
not shut it out (`outstanding_settles`).
-/

namespace RelayGate.Ledger

variable {l : Ledger} {steps : List Step} {m : Message} {signatures : List Signature} {verify : Verifier}

/-- In a run of these steps the message was committed, and no settlement of its key succeeded since. -/
def Outstanding (l : Ledger) (steps : List Step) (m : Message) : Prop :=
  ∃ before signatures bump after,
    steps = before ++ .commit m signatures bump :: after ∧
      ((l.run before).1.step (.commit m signatures bump)).2.outcome.isOk = true ∧
      .settled m.key ∉ ((l.run before).1.step (.commit m signatures bump)).1.history after

/-- The gateway and the registries of a ledger let a message pass that carries these signatures, once
the signatures are valid. -/
structure Admits (l : Ledger) (m : Message) (signatures : List Signature) : Prop where
  enabled : l.gateway.enabled = true
  destination : m.destination = l.gateway.chain
  via : Layers.Configured .via m.source l.gateway.authority l.layers.via
  chain : Layers.Configured .chain m.source l.gateway.authority l.layers.chain
  project : ∀ project, l.layers.project = some project →
    Layers.Configured .project m.source l.gateway.authority project
  digest : m.hash.isZero = false
  satisfied : l.layers.Satisfied signatures

/-- The marker of an outstanding message is in its place, and the message is within its limits. -/
theorem Outstanding.present (h : l.Outstanding steps m) (hs : ∀ s ∈ steps, s.forces = false) :
    m.WithinLimits ∧ ∃ bump, (l.run steps).1.markers.get? m.key = some (Delivery.markerOf m bump) := by
  obtain ⟨before, signatures, bump, after, rfl, hok, hopen⟩ := h
  obtain ⟨hc, -, hstate⟩ := commit_of_isOk hok
  have hafter : ∀ s ∈ after, s.forces = false := fun s hmem => hs s (by simp [hmem])
  refine ⟨hc.limits, bump, ?_⟩
  rw [run_append, run_cons]
  refine Book.pending_of_settled_notMem (book_run hafter) ?_ hopen
  rw [step, hstate]
  exact Table.get?_insert_self _ _ _

/-- A ledger that admits a message settles it when its marker is in its place and its signatures are
valid. -/
theorem Admits.outcome_settle {bump : UInt8} (h : l.Admits m signatures) (hlimits : m.WithinLimits)
    (hpresent : l.markers.get? m.key = some (Delivery.markerOf m bump))
    (hvalid : ∀ s ∈ signatures, verify m.hash s = true) :
    (l.settle m signatures verify).2.outcome =
      .ok (.settled { digest := m.hash, tally := l.layers.tally signatures m.hash verify }) := by
  have hsettle : Delivery.Settleable (l.markers.get? m.key) l.gateway m signatures l.layers verify
      (Delivery.markerOf m bump) (l.layers.tally signatures m.hash verify) :=
    { enabled := h.enabled
      destination := h.destination
      present := hpresent
      via := h.via
      chain := h.chain
      project := h.project
      limits := hlimits
      txId_eq := rfl
      source_eq := rfl
      digest_eq := rfl
      approved := h.satisfied.outcome_validate hvalid h.digest }
  have houtcome : (Delivery.settle (l.markers.get? m.key) l.gateway m signatures l.layers verify).outcome =
      .ok { digest := m.hash, tally := l.layers.tally signatures m.hash verify } :=
    Delivery.outcome_settle_eq_ok.2 ⟨rfl, _, hsettle⟩
  rw [Ledger.outcome_settle, houtcome]
  rfl

/-- A message that was committed and not settled since is settled by any list of signatures that the
gateway and the registries, as they stand now, let pass, once an instruction has the signatures checked
over its digest. Such an instruction can always be made. The marker is gone then. -/
theorem outstanding_settles (hs : ∀ s ∈ steps, s.forces = false) (hopen : l.Outstanding steps m)
    (hadmits : (l.run steps).1.Admits m signatures) :
    m.digest.outcome = .ok m.hash ∧
      ∃ i, Attestation.instruction? signatures m.hash.bytes = some i ∧
        (∃ tally, ((l.run steps).1.step
          (.settle m signatures (Attestation.verifier (Attestation.ofInstructions [i])))).2.outcome =
            .ok (.settled { digest := m.hash, tally })) ∧
        ((l.run steps).1.step (.settle m signatures
          (Attestation.verifier (Attestation.ofInstructions [i])))).1.markers.get? m.key = none := by
  obtain ⟨hlimits, bump, hpresent⟩ := hopen.present hs
  obtain ⟨i, hi⟩ := Attestation.exists_instruction? hadmits.satisfied.bounded m.hash
  have hvalid : ∀ s ∈ signatures,
      Attestation.verifier (Attestation.ofInstructions [i]) m.hash s = true := fun s hmem =>
    (Attestation.verifier_of_instruction? hi).2 ⟨rfl, hmem⟩
  have hsettled := hadmits.outcome_settle hlimits hpresent hvalid
  obtain ⟨-, -, -, -, hstate⟩ := settle_of_isOk (isOk_eq_true.2 ⟨_, hsettled⟩)
  refine ⟨Message.outcome_digest_eq_ok.2 ⟨hlimits, rfl⟩, i, hi, ⟨_, hsettled⟩, ?_⟩
  rw [step, hstate]
  exact Table.get?_erase_self _ _

/-- Settlements that fail, without signatures and under a gateway that is switched off, and another
message that goes all the way. -/
def exampleDelays : List Step :=
  exampleTrials ++
    [.setGateway { exampleLedger.gateway with enabled := false },
      .settle exampleMessage exampleSignatures fun _ _ => true,
      .setGateway exampleLedger.gateway,
      .commit { exampleMessage with txId := 2 } exampleSignatures 255,
      .settle { exampleMessage with txId := 2 } exampleSignatures fun _ _ => true]

theorem outstanding_settles_after_delays :
    (∀ s ∈ exampleDelays, s.forces = false) ∧
      (exampleLedger.run exampleDelays).2.map (·.outcome.isOk) =
        [true, false, false, true, true, false, true, true, true] ∧
      exampleLedger.Outstanding exampleDelays exampleMessage ∧
      (exampleLedger.run exampleDelays).1.Admits exampleMessage exampleSignatures ∧
      ∃ i, Attestation.instruction? exampleSignatures exampleMessage.hash.bytes = some i ∧
        (∃ tally, ((exampleLedger.run exampleDelays).1.step
          (.settle exampleMessage exampleSignatures
            (Attestation.verifier (Attestation.ofInstructions [i])))).2.outcome =
              .ok (.settled { digest := exampleMessage.hash, tally })) ∧
        ((exampleLedger.run exampleDelays).1.step
          (.settle exampleMessage exampleSignatures
            (Attestation.verifier (Attestation.ofInstructions [i])))).1.markers.get? exampleMessage.key =
              none := by
  have hs : ∀ s ∈ exampleDelays, s.forces = false := by decide
  have hopen : exampleLedger.Outstanding exampleDelays exampleMessage :=
    ⟨[], exampleSignatures, 255, _, rfl, by decide +kernel, by decide +kernel⟩
  have hproject : (exampleLedger.run exampleDelays).1.layers.project = none := by decide +kernel
  have hconfigured : ((exampleLedger.run exampleDelays).1.layers.checkConfigured exampleMessage.source
      (exampleLedger.run exampleDelays).1.gateway.authority).outcome = .ok () := by
    decide +kernel
  obtain ⟨hviaConfigured, hchainConfigured, hprojectConfigured⟩ :=
    Layers.outcome_checkConfigured_eq_ok.1 hconfigured
  have hadmits : (exampleLedger.run exampleDelays).1.Admits exampleMessage exampleSignatures :=
    { enabled := by decide +kernel
      destination := by decide +kernel
      via := hviaConfigured
      chain := hchainConfigured
      project := hprojectConfigured
      digest := by decide +kernel
      satisfied :=
        { via_enabled := by decide +kernel
          chain_enabled := by decide +kernel
          enough := by decide +kernel
          bounded := by decide +kernel
          distinct := by decide +kernel
          known := fun s hmem => Layers.recognizes_eq_true.1 (by revert s; decide +kernel)
          met := by
            intro r hr
            obtain h | h | h := hr.1
            · rw [h]
              decide +kernel
            · rw [h]
              decide +kernel
            · rw [hproject] at h
              cases h } }
  exact ⟨hs, by decide +kernel, hopen, hadmits, (outstanding_settles hs hopen hadmits).2⟩

end RelayGate.Ledger
