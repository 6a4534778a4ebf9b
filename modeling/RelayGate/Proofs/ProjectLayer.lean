import RelayGate.Proofs.LedgerDelivery
import RelayGate.Proofs.PhaseChecks

/-!
# Project registries that are switched off

A Project registry that is switched off takes no part: the signatures are put to the other two layers
alone, line for line as if it were not there (`Layers.validate_congr`). Whose registry it is has to be in
order all the same, since every registry that is supplied is looked at before that.
-/

namespace RelayGate

variable {l l' : Layers} {via chain project : Registry} {signatures : List Signature} {digest : Digest}
  {verify : Verifier} {seen : List Key}

namespace Layers

/-! ## Without a part in the verdict -/

theorem activeProject_of_off (hoff : project.enabled = false) :
    activeProject { via, chain, project := some project } = none := by
  simp [activeProject, hoff]

theorem checkEach_congr (hvia : l.via = l'.via) (hchain : l.chain = l'.chain)
    (hactive : l.activeProject = l'.activeProject) :
    l.checkEach digest verify seen signatures = l'.checkEach digest verify seen signatures := by
  have hproject : ∀ key, l.projectRecognizes key = l'.projectRecognizes key := by
    simp only [projectRecognizes, hactive, implies_true]
  induction signatures generalizing seen with
  | nil => rfl
  | cons s rest ih =>
    change (ensure (s.signer ∉ seen) GateError.duplicateSigner >>= fun _ => _ :
        Traced GateError Unit) =
      (ensure (s.signer ∉ seen) GateError.duplicateSigner >>= fun _ => _ : Traced GateError Unit)
    simp only [hvia, hchain, hproject, ih]

/-- A verdict sees of the Project layer only the registry that takes part. -/
theorem validate_congr (hvia : l.via = l'.via) (hchain : l.chain = l'.chain)
    (hactive : l.activeProject = l'.activeProject) :
    l.validate signatures digest verify = l'.validate signatures digest verify := by
  have htally : l.tally signatures digest verify = l'.tally signatures digest verify := by
    simp only [tally, hvia, hchain, hactive]
  have hthresholds : ∀ t, l.checkThresholds t = l'.checkThresholds t := by
    simp only [checkThresholds, hvia, hchain, hactive, implies_true]
  simp only [validate, checkEach_congr hvia hchain hactive, htally, hthresholds, hvia, hchain]

/-! ## Whose registry it is -/

section

variable {layer : Layer} {chain : UInt64} {authority : Key} {r : Registry}

theorem checkRegistry_of_configured (h : Configured layer chain authority r) :
    checkRegistry layer chain authority r = pure () := by
  obtain ⟨rfl, rfl, rfl⟩ := h
  simp only [checkRegistry, and_self, ne_eq, not_true_eq_false, if_false]
  rfl

/-- What is reported of a registry that is not the right one: its place before its owner. -/
def configurationFault (layer : Layer) (chain : UInt64) (r : Registry) : GateError :=
  if r.layer = layer ∧ r.chain = chain then .unauthorized else .registryMismatch

theorem firstFault_registryChecks (h : ¬Configured layer chain authority r) :
    FirstFault (registryChecks layer chain authority r) (configurationFault layer chain r) := by
  rw [registryChecks, firstFault_cons, firstFault_cons, configurationFault]
  by_cases hplace : r.layer = layer ∧ r.chain = chain
  · have hauthority : r.authority ≠ authority := fun hauthority =>
      h ⟨hplace.1, hplace.2, hauthority⟩
    exact .inr ⟨hplace, .inl ⟨hauthority, (if_pos hplace).symm⟩⟩
  · exact .inl ⟨hplace, (if_neg hplace).symm⟩

end

end Layers

namespace Delivery

/-- A Project registry that is switched off is skipped when it is the one of the message's source chain
and of the gateway's authority: a settlement is the same without it, to the last line of its log. One that
is not is refused, switched off or not, once everything that is asked before has been found in order. -/
theorem switched_off_project_is_skipped (pending : Option Marker) (gateway : Gateway) (m : Message)
    (signatures : List Signature) (via chain project : Registry) (verify : Verifier) :
    let supplied : Layers := { via, chain, project := some project }
    let absent : Layers := { via, chain, project := none }
    (project.enabled = false → Layers.Configured .project m.source gateway.authority project →
      settle pending gateway m signatures supplied verify =
        settle pending gateway m signatures absent verify) ∧
    (¬Layers.Configured .project m.source gateway.authority project →
      (∀ e, FirstFault (entryChecks pending gateway m absent) e →
        (settle pending gateway m signatures supplied verify).outcome = .error e ∧
          (settle pending gateway m signatures absent verify).outcome = .error e) ∧
      ((∀ check ∈ entryChecks pending gateway m absent, check.1) →
        (settle pending gateway m signatures supplied verify).outcome =
          .error (Layers.configurationFault .project m.source project))) := by
  intro supplied absent
  refine ⟨fun hoff hconfigured => ?_, fun hforeign => ⟨fun e hfault => ?_, fun hentry => ?_⟩⟩
  · have hchecked : supplied.checkConfigured m.source gateway.authority =
        absent.checkConfigured m.source gateway.authority := by
      simp only [Layers.checkConfigured, supplied, absent,
        Layers.checkRegistry_of_configured hconfigured]
    have hvalidate : ∀ digest, supplied.validate signatures digest verify =
        absent.validate signatures digest verify := fun _ =>
      Layers.validate_congr rfl rfl (Layers.activeProject_of_off hoff)
    simp only [settle, hchecked, hvalidate]
  · exact ⟨(reportsFirst_settle e).2 (firstFault_append.2 (.inl hfault)),
      (reportsFirst_settle e).2 (firstFault_append.2 (.inl hfault))⟩
  · refine (reportsFirst_settle _).2 ((firstFault_append_of_forall hentry).2 ?_)
    refine firstFault_append.2 (.inl ?_)
    rw [Layers.projectChecks_some]
    exact Layers.firstFault_registryChecks hforeign

/-- The registries of `Ledger.exampleLedger`, with a Project registry or without. -/
def exampleWithProject (project : Option Registry) : Layers :=
  { via := Ledger.exampleLedger.via, chain := Ledger.exampleLedger.chain, project }

/-- A Project registry for the messages from `Ledger.exampleLedger`'s chain, switched off. -/
def exampleOff (authority : Key) : Registry :=
  { layer := .project, authority, signers := [.filled 32 3], threshold := 1, chain := 43113,
    enabled := false, bump := 254 }

/-- A settlement of `Ledger.exampleMessage`, which is pending. -/
def exampleSettle (gateway : Gateway) (project : Option Registry) : Traced GateError Settlement :=
  settle (some (markerOf Ledger.exampleMessage 255)) gateway Ledger.exampleMessage
    Ledger.exampleSignatures (exampleWithProject project) fun _ _ => true

/-- The authority's own registry makes no difference. A foreign one is reported, whether it is switched off
or on, though not while the gateway is stopped. -/
theorem switched_off_project_is_skipped_if_own :
    let gateway := Ledger.exampleLedger.gateway
    let foreign := exampleOff (.filled 32 9)
    (exampleOff (.filled 32 42)).enabled = false ∧ foreign.enabled = false ∧
      exampleSettle gateway (some (exampleOff (.filled 32 42))) = exampleSettle gateway none ∧
      (exampleSettle gateway (some foreign)).outcome = .error .unauthorized ∧
      (exampleSettle gateway (some { foreign with enabled := true })).outcome = .error .unauthorized ∧
      (exampleSettle { gateway with enabled := false } (some foreign)).outcome =
        .error .systemDisabled := by
  intro gateway foreign
  have hown : (exampleOff (.filled 32 42)).enabled = false := rfl
  have hother : gateway.authority ≠ .filled 32 9 := by decide
  have hforeign : ∀ enabled, ¬Layers.Configured .project Ledger.exampleMessage.source gateway.authority
      { foreign with enabled } := fun _ h => hother h.authority_eq.symm
  have hentry : ∀ check ∈ entryChecks (some (markerOf Ledger.exampleMessage 255)) gateway
      Ledger.exampleMessage (exampleWithProject none), check.1 := by
    simp only [entryChecks, Layers.registryChecks, List.cons_append, List.nil_append,
      List.forall_mem_cons]
    exact ⟨rfl, rfl, ⟨_, rfl⟩, ⟨rfl, rfl⟩, rfl, ⟨rfl, rfl⟩, rfl, List.forall_mem_nil _⟩
  have hskipped : exampleSettle gateway (some (exampleOff (.filled 32 42))) = exampleSettle gateway none :=
    (switched_off_project_is_skipped _ _ _ _ _ _ _ _).1 hown ⟨rfl, rfl, rfl⟩
  have hrefused : ∀ enabled, (exampleSettle gateway (some { foreign with enabled })).outcome =
      .error .unauthorized := fun enabled =>
    ((switched_off_project_is_skipped _ _ _ _ _ _ _ _).2 (hforeign enabled)).2 hentry
  have hstopped : (exampleSettle { gateway with enabled := false } (some foreign)).outcome =
      .error .systemDisabled :=
    (((switched_off_project_is_skipped _ { gateway with enabled := false } _ _ _ _ _ _).2
      (hforeign false)).1 _ (firstFault_cons.2 (.inl ⟨Bool.false_ne_true, rfl⟩))).1
  exact ⟨hown, rfl, hskipped, hrefused false, hrefused true, hstopped⟩

/-- A registry of somebody else is refused even where it is switched off and the message could be settled
without it. -/
theorem foreign_project_is_not_skipped :
    (exampleOff (.filled 32 9)).enabled = false ∧
      (exampleSettle Ledger.exampleLedger.gateway (some (exampleOff (.filled 32 9)))).outcome =
        .error .unauthorized ∧
      (exampleSettle Ledger.exampleLedger.gateway none).outcome =
        .ok { digest := Ledger.exampleMessage.hash, tally := ⟨1, 1, 0, 2⟩ } := by
  decide +kernel

end Delivery

end RelayGate
