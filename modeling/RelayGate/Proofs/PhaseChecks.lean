import RelayGate.Proofs.Verdict

/-!
# The checks of the phases

Each phase goes through a list of checks and fails with the error of the first one that does not hold. A
commit looks at the gateway and at what is stored for the message, then at the number of signatures, then
at the sizes of the message (`Delivery.commitChecks`). A settlement looks at the gateway and at the
marker, then at whose the registries are, then at the message, and in the end has the layers decide on
its signatures (`Delivery.settleChecks`).
-/

namespace RelayGate

variable {pending : Option Marker} {gateway : Gateway} {counter : Counter} {m : Message}
  {signatures : List Signature} {bump : UInt8} {layers : Layers} {verify : Verifier} {marker : Marker}
  {r : Registry} {layer : Layer} {chain destination : UInt64} {authority : Key} {digest : Digest}
  {txId : TxId} {source : UInt64}

/-! ## Gateways and counters -/

theorem Gateway.reportsFirst_checkEnabled :
    ReportsFirst gateway.checkEnabled [(gateway.enabled = true, .systemDisabled)] :=
  .ensure Iff.rfl

theorem Gateway.reportsFirst_checkDestination :
    ReportsFirst (gateway.checkDestination destination)
      [(destination = gateway.chain, .invalidDestChain)] :=
  .ensure Iff.rfl

theorem Counter.reportsFirst_checkFresh :
    ReportsFirst (counter.checkFresh txId).outcome [(counter.highest < txId, .txIdTooOld)] :=
  .outcome_refuse_end BitVec.not_le

/-! ## Registries -/

namespace Layers

/-- What is asked of a registry. -/
def registryChecks (layer : Layer) (chain : UInt64) (authority : Key) (r : Registry) :
    List (Prop × GateError) :=
  [(r.layer = layer ∧ r.chain = chain, .registryMismatch), (r.authority = authority, .unauthorized)]

/-- What is asked of a Project registry, if there is one. -/
def projectChecks (chain : UInt64) (authority : Key) (project : Option Registry) :
    List (Prop × GateError) :=
  [(∀ r, project = some r → r.layer = .project ∧ r.chain = chain, .registryMismatch),
    (∀ r, project = some r → r.authority = authority, .unauthorized)]

theorem reportsFirst_checkRegistry :
    ReportsFirst (checkRegistry layer chain authority r).outcome
      (registryChecks layer chain authority r) :=
  .outcome_ensure_bind Iff.rfl fun _ => .outcome_refuse_end not_not

theorem forall_registryChecks :
    (∀ check ∈ registryChecks layer chain authority r, check.1) ↔ Configured layer chain authority r := by
  rw [registryChecks, List.forall_mem_cons, List.forall_mem_singleton]
  constructor
  · rintro ⟨⟨hlayer, hchain⟩, hauthority⟩
    exact ⟨hlayer, hchain, hauthority⟩
  · intro h
    exact ⟨⟨h.layer_eq, h.chain_eq⟩, h.authority_eq⟩

theorem projectChecks_some :
    projectChecks chain authority (some r) = registryChecks .project chain authority r := by
  simp [projectChecks, registryChecks]

theorem forall_projectChecks {project : Option Registry} :
    (∀ check ∈ projectChecks chain authority project, check.1) ↔
      ∀ r, project = some r → Configured .project chain authority r := by
  cases project with
  | none => simp [projectChecks]
  | some r =>
    rw [projectChecks_some, forall_registryChecks]
    simp only [Option.some.injEq, forall_eq']

theorem reportsFirst_checkConfigured :
    ReportsFirst (layers.checkConfigured chain authority).outcome
      (registryChecks .via chain authority layers.via ++
        (registryChecks .chain chain authority layers.chain ++
          projectChecks chain authority layers.project)) := by
  unfold checkConfigured
  refine reportsFirst_checkRegistry.outcome_bind fun _ _ => ?_
  refine reportsFirst_checkRegistry.outcome_bind fun _ _ => ?_
  cases layers.project with
  | none => exact .ok (by simp [projectChecks])
  | some r =>
    rw [projectChecks_some]
    exact reportsFirst_checkRegistry

end Layers

/-! ## Messages and markers -/

namespace Message

/-- What is asked of the sizes of a message. -/
def sizeChecks (m : Message) : List (Prop × GateError) :=
  [(m.sender.length ≤ maxSender, .senderTooLong), (m.recipient.length ≤ maxRecipient, .recipientTooLong),
    (m.onChainData.length ≤ maxOnChainData, .onChainDataTooLarge),
    (m.offChainData.length ≤ maxOffChainData, .offChainDataTooLarge)]

theorem forall_sizeChecks : (∀ check ∈ m.sizeChecks, check.1) ↔ m.WithinLimits := by
  simp only [sizeChecks, List.forall_mem_cons]
  constructor
  · rintro ⟨hsender, hrecipient, honChain, hoffChain, -⟩
    exact ⟨hsender, hrecipient, honChain, hoffChain⟩
  · intro h
    exact ⟨h.sender, h.recipient, h.onChainData, h.offChainData, List.forall_mem_nil _⟩

theorem reportsFirst_digest : ReportsFirst m.digest.outcome m.sizeChecks := by
  have hsizes : ReportsFirst m.checkSizes m.sizeChecks :=
    .ensure_bind Iff.rfl fun _ => .ensure_bind Iff.rfl fun _ => .ensure_bind Iff.rfl fun _ => .ensure Iff.rfl
  rw [← List.append_nil m.sizeChecks]
  exact .outcome_bind hsizes fun _ _ => .ok_nil

end Message

theorem Marker.reportsFirst_checkMatches :
    ReportsFirst (marker.checkMatches txId source digest).outcome
      [(marker.txId = txId ∧ marker.source = source, .recordNotFound),
        (marker.digest = digest, .digestMismatch)] :=
  .outcome_ensure_bind Iff.rfl fun _ => .outcome_refuse_end not_not

namespace Delivery

/-! ## Commits -/

/-- All that is asked of a commit, in order. -/
def commitChecks (pending : Option Marker) (gateway : Gateway) (counter : Counter) (m : Message)
    (signatures : List Signature) : List (Prop × GateError) :=
  [(gateway.enabled = true, .systemDisabled), (m.destination = gateway.chain, .invalidDestChain),
    (pending = none, .alreadyExists), (counter.highest < m.txId, .txIdTooOld),
    (Signature.minPerMessage ≤ signatures.length, .tooFewSignatures),
    (signatures.length ≤ Signature.maxPerMessage, .tooManySignatures)] ++
  m.sizeChecks

/-- A commit fails with the error of the first check that it does not pass. -/
theorem reportsFirst_commit :
    ReportsFirst (commit pending gateway counter m signatures bump).outcome
      (commitChecks pending gateway counter m signatures) := by
  rw [commitChecks, ← List.append_nil m.sizeChecks]
  change ReportsFirst _ ([_] ++ ([_] ++ (_ :: ([_] ++ ([_, _] ++ (_ ++ _))))))
  refine .outcome_bind Gateway.reportsFirst_checkEnabled fun _ _ => ?_
  refine .outcome_bind Gateway.reportsFirst_checkDestination fun _ _ => ?_
  refine .outcome_refuse (by simp) ?_
  refine .outcome_bind Counter.reportsFirst_checkFresh fun _ _ => ?_
  refine .outcome_bind Layers.reportsFirst_checkCount fun _ _ => ?_
  exact .outcome_bind Message.reportsFirst_digest fun _ _ => .ok_nil

/-! ## Settlements -/

/-- What is asked of a settlement before it comes to a Project registry. -/
def entryChecks (pending : Option Marker) (gateway : Gateway) (m : Message) (layers : Layers) :
    List (Prop × GateError) :=
  [(gateway.enabled = true, .systemDisabled), (m.destination = gateway.chain, .invalidDestChain),
    (∃ marker, pending = some marker, .recordNotFound)] ++
  (Layers.registryChecks .via m.source gateway.authority layers.via ++
    Layers.registryChecks .chain m.source gateway.authority layers.chain)

/-- What is asked of the marker that is pending. -/
def markerChecks (pending : Option Marker) (m : Message) : List (Prop × GateError) :=
  [(∀ marker, pending = some marker → marker.txId = m.txId ∧ marker.source = m.source,
      .recordNotFound),
    (∀ marker, pending = some marker → marker.digest = m.hash, .digestMismatch)]

/-- What is asked of a settlement once all registries are the right ones. -/
def messageChecks (pending : Option Marker) (m : Message) (signatures : List Signature)
    (layers : Layers) (verify : Verifier) : List (Prop × GateError) :=
  m.sizeChecks ++ (markerChecks pending m ++ layers.checks signatures m.hash verify)

/-- All that is asked of a settlement, in order. -/
def settleChecks (pending : Option Marker) (gateway : Gateway) (m : Message)
    (signatures : List Signature) (layers : Layers) (verify : Verifier) : List (Prop × GateError) :=
  entryChecks pending gateway m layers ++
    (Layers.projectChecks m.source gateway.authority layers.project ++
      messageChecks pending m signatures layers verify)

theorem reportsFirst_expectPending :
    ReportsFirst (expectPending pending m).outcome [(∃ marker, pending = some marker, .recordNotFound)] := by
  cases pending with
  | none =>
    intro e
    simp [expectPending, Traced.outcome_bind_eq_error, firstFault_singleton]
  | some marker => exact .ok (List.forall_mem_singleton.2 ⟨marker, rfl⟩)

/-- A settlement fails with the error of the first check that it does not pass. -/
theorem reportsFirst_settle :
    ReportsFirst (settle pending gateway m signatures layers verify).outcome
      (settleChecks pending gateway m signatures layers verify) := by
  have hlists : settleChecks pending gateway m signatures layers verify =
      [(gateway.enabled = true, GateError.systemDisabled)] ++
      ([(m.destination = gateway.chain, .invalidDestChain)] ++
      ([(∃ marker, pending = some marker, .recordNotFound)] ++
      ((Layers.registryChecks .via m.source gateway.authority layers.via ++
        (Layers.registryChecks .chain m.source gateway.authority layers.chain ++
          Layers.projectChecks m.source gateway.authority layers.project)) ++
      (m.sizeChecks ++ (markerChecks pending m ++
        (layers.checks signatures m.hash verify ++ [])))))) := by
    simp only [settleChecks, entryChecks, messageChecks, List.append_assoc, List.append_nil,
      List.cons_append, List.nil_append]
  rw [hlists]
  refine .outcome_bind Gateway.reportsFirst_checkEnabled fun _ _ => ?_
  refine .outcome_bind Gateway.reportsFirst_checkDestination fun _ _ => ?_
  refine .outcome_bind reportsFirst_expectPending fun marker hmarker => ?_
  obtain rfl := outcome_expectPending_eq_ok.1 hmarker
  refine .outcome_bind Layers.reportsFirst_checkConfigured fun _ _ => ?_
  refine .outcome_bind Message.reportsFirst_digest fun d hd => ?_
  obtain ⟨-, rfl⟩ := Message.outcome_digest_eq_ok.1 hd
  have hmatches : ReportsFirst (marker.checkMatches m.txId m.source m.hash).outcome
      (markerChecks (some marker) m) := by
    simpa [markerChecks] using Marker.reportsFirst_checkMatches
  refine .outcome_bind hmatches fun _ _ => ?_
  exact .outcome_bind Layers.reportsFirst_validate fun _ _ => .ok_nil

end Delivery

end RelayGate
