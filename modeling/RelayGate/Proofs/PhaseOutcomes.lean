import RelayGate.Proofs.LedgerDelivery
import RelayGate.Proofs.PhaseChecks

/-!
# The outcome of a phase

Each phase of a delivery succeeds exactly where all of its conditions hold, and otherwise reports the
first one that does not (`commit_decides`, `settle_decides`). A commit knows of the signatures only how
many there are. A settlement compares digests before it looks at a signature, so signatures over another
digest than the committed one are never of any use.
-/

namespace RelayGate.Delivery

variable {pending : Option Marker} {gateway : Gateway} {counter : Counter} {m : Message}
  {signatures signatures' : List Signature} {bump : UInt8} {layers : Layers} {verify : Verifier}
  {marker : Marker} {e : GateError}

/-! ## Commits -/

/-- A commit sees of the signatures only their number. -/
theorem commit_congr_length (hlength : signatures'.length = signatures.length) :
    commit pending gateway counter m signatures' bump = commit pending gateway counter m signatures bump := by
  have hcount : Signature.checkCount signatures' = Signature.checkCount signatures := by
    rw [Signature.checkCount, Signature.checkCount, hlength]
  rw [commit, commit, hcount]

/-- A message is committed exactly when it can be, and the marker is then the one of the message, with its
digest and the bump. Otherwise the first check that it does not pass is reported. Other signatures, as many
of them, make no difference, not even to the log. -/
theorem commit_decides (pending : Option Marker) (gateway : Gateway) (counter : Counter) (m : Message)
    (signatures : List Signature) (bump : UInt8) :
    (∀ marker, (commit pending gateway counter m signatures bump).outcome = .ok marker ↔
        Committable pending gateway counter m signatures ∧
          marker = { txId := m.txId, source := m.source, digest := m.hash, bump }) ∧
      (∀ e, (commit pending gateway counter m signatures bump).outcome = .error e ↔
        FirstFault (commitChecks pending gateway counter m signatures) e) ∧
      ∀ signatures' : List Signature, signatures'.length = signatures.length →
        commit pending gateway counter m signatures' bump =
          commit pending gateway counter m signatures bump := by
  refine ⟨fun marker => ?_, reportsFirst_commit, fun signatures' hlength => commit_congr_length hlength⟩
  rw [outcome_commit_eq_ok]
  exact and_congr_right fun _ => eq_comm

/-- As many signatures of one signer as a message may carry. -/
def exampleRepeated (signer : UInt8) : List Signature :=
  .replicate 8 ⟨.filled 32 signer, .filled 64 signer⟩

/-- Any eight signatures commit a message. Where a marker is in the way, the highest possible id was seen,
there are no signatures and two fields are too long, the marker is reported, and without it the id. -/
theorem commit_decides_among_faults :
    let gateway := Ledger.exampleLedger.gateway
    let fresh : Counter := { chain := 43113, highest := 0, bump := 253 }
    let spent : Counter := { chain := 43113, highest := BitVec.allOnes 128, bump := 253 }
    let m := Ledger.exampleMessage
    let long : Message := { m with sender := .replicate 65 0, recipient := .replicate 65 0 }
    (commit none gateway fresh m (exampleRepeated 1) 255).outcome = .ok (markerOf m 255) ∧
      (exampleRepeated 2).length = (exampleRepeated 1).length ∧
      commit none gateway fresh m (exampleRepeated 2) 255 =
        commit none gateway fresh m (exampleRepeated 1) 255 ∧
      (commit (some (markerOf m 255)) gateway spent long [] 255).outcome = .error .alreadyExists ∧
      FirstFault (commitChecks (some (markerOf m 255)) gateway spent long []) .alreadyExists ∧
      (commit none gateway spent long [] 255).outcome = .error .txIdTooOld ∧
      FirstFault (commitChecks none gateway spent long []) .txIdTooOld := by
  intro gateway fresh spent m long
  have hlimits : m.WithinLimits := ⟨by decide, by decide, by decide, by decide⟩
  have hallowed : Committable none gateway fresh m (exampleRepeated 1) :=
    ⟨rfl, rfl, rfl, by decide, by decide, by decide, hlimits⟩
  have hlength : (exampleRepeated 2).length = (exampleRepeated 1).length := rfl
  have hpending : (commit (some (markerOf m 255)) gateway spent long [] 255).outcome =
      .error .alreadyExists := rfl
  have hspent : (commit none gateway spent long [] 255).outcome = .error .txIdTooOld := rfl
  obtain ⟨hok, -, hcongr⟩ := commit_decides none gateway fresh m (exampleRepeated 1) 255
  obtain ⟨-, hfirst, -⟩ := commit_decides (some (markerOf m 255)) gateway spent long [] 255
  obtain ⟨-, hsecond, -⟩ := commit_decides none gateway spent long [] 255
  exact ⟨(hok _).2 ⟨hallowed, rfl⟩, hlength, hcongr _ hlength, hpending, (hfirst _).1 hpending, hspent,
    (hsecond _).1 hspent⟩

/-! ## Settlements -/

/-- All that is asked of a settlement apart from its signatures, in order. -/
def unsignedChecks (pending : Option Marker) (gateway : Gateway) (m : Message) (layers : Layers) :
    List (Prop × GateError) :=
  entryChecks pending gateway m layers ++
    (Layers.projectChecks m.source gateway.authority layers.project ++
      (m.sizeChecks ++ markerChecks pending m))

/-- What lets a message come as far as the comparison with the committed digest. -/
structure Presentable (pending : Option Marker) (gateway : Gateway) (m : Message) (layers : Layers)
    (marker : Marker) : Prop where
  enabled : gateway.enabled = true
  destination : m.destination = gateway.chain
  present : pending = some marker
  via : Layers.Configured .via m.source gateway.authority layers.via
  chain : Layers.Configured .chain m.source gateway.authority layers.chain
  project : ∀ project, layers.project = some project →
    Layers.Configured .project m.source gateway.authority project
  limits : m.WithinLimits
  txId_eq : marker.txId = m.txId
  source_eq : marker.source = m.source

theorem Presentable.entryChecks (h : Presentable pending gateway m layers marker) :
    ∀ check ∈ entryChecks pending gateway m layers, check.1 := by
  simp only [Delivery.entryChecks, List.forall_mem_append, List.forall_mem_cons]
  exact ⟨⟨h.enabled, h.destination, ⟨marker, h.present⟩, List.forall_mem_nil _⟩,
    Layers.forall_registryChecks.2 h.via, Layers.forall_registryChecks.2 h.chain⟩

/-- A settlement fails before its signatures are looked at, with the error of the first check that does
not hold, or fails with the layers' own verdict on the signatures. -/
theorem outcome_settle_eq_error :
    (settle pending gateway m signatures layers verify).outcome = .error e ↔
      FirstFault (unsignedChecks pending gateway m layers) e ∨
        (∀ check ∈ unsignedChecks pending gateway m layers, check.1) ∧
          (layers.validate signatures m.hash verify).outcome = .error e := by
  have hlists : settleChecks pending gateway m signatures layers verify =
      unsignedChecks pending gateway m layers ++ layers.checks signatures m.hash verify := by
    simp only [settleChecks, unsignedChecks, messageChecks, List.append_assoc]
  rw [reportsFirst_settle, hlists, firstFault_append, Layers.reportsFirst_validate]

/-- Another digest than the committed one is reported as such, whatever the signatures. -/
theorem Presentable.outcome_settle (h : Presentable pending gateway m layers marker)
    (hdigest : marker.digest ≠ m.hash) :
    (settle pending gateway m signatures layers verify).outcome = .error .digestMismatch := by
  have hproject := Layers.forall_projectChecks.2 h.project
  have hlimits := Message.forall_sizeChecks.2 h.limits
  -- of the two checks on the marker the one on its key holds and the one on its digest does not
  have hmarker : FirstFault (markerChecks pending m) .digestMismatch := by
    refine firstFault_cons.2 (.inr ⟨?_, firstFault_singleton.2 ⟨fun hsame => ?_, rfl⟩⟩)
    · intro other hother
      obtain rfl : marker = other := Option.some.inj (h.present.symm.trans hother)
      exact ⟨h.txId_eq, h.source_eq⟩
    · exact hdigest (hsame marker h.present)
  refine outcome_settle_eq_error.2 (.inl ?_)
  exact (firstFault_append_of_forall h.entryChecks).2
    ((firstFault_append_of_forall hproject).2 ((firstFault_append_of_forall hlimits).2 hmarker))

/-- A message is settled exactly when it can be, and its digest and the counts of the layers are reported.
Otherwise the first check that it does not pass is reported, and the layers' own refusal where only the
signatures are at fault. So a message that comes as far as the comparison of digests, and is not the
committed one, is refused for that, even if the layers approve its signatures. -/
theorem settle_decides (pending : Option Marker) (gateway : Gateway) (m : Message)
    (signatures : List Signature) (layers : Layers) (verify : Verifier) :
    (∀ settlement, (settle pending gateway m signatures layers verify).outcome = .ok settlement ↔
        settlement.digest = m.hash ∧
          ∃ marker, Settleable pending gateway m signatures layers verify marker settlement.tally) ∧
      (∀ e, (settle pending gateway m signatures layers verify).outcome = .error e ↔
        FirstFault (unsignedChecks pending gateway m layers) e ∨
          (∀ check ∈ unsignedChecks pending gateway m layers, check.1) ∧
            (layers.validate signatures m.hash verify).outcome = .error e) ∧
      ∀ marker, Presentable pending gateway m layers marker → marker.digest ≠ m.hash →
        (settle pending gateway m signatures layers verify).outcome = .error .digestMismatch :=
  ⟨fun _ => outcome_settle_eq_ok, fun _ => outcome_settle_eq_error, fun _ h hdigest =>
    h.outcome_settle hdigest⟩

/-- Signatures that the layers approve settle the committed message. Where another digest was committed
they do not help, and where the marker is not even one of the message's key, that is reported. -/
theorem settle_decides_before_signatures :
    let l := Ledger.exampleLedger
    let m := Ledger.exampleMessage
    let committed := markerOf m 255
    let other : Marker := { committed with digest := .filled 32 7 }
    let stray : Marker := { other with txId := 2 }
    let approving : Verifier := fun _ _ => true
    (l.layers.validate Ledger.exampleSignatures m.hash approving).outcome = .ok ⟨1, 1, 0, 2⟩ ∧
      (settle (some committed) l.gateway m Ledger.exampleSignatures l.layers approving).outcome =
        .ok { digest := m.hash, tally := ⟨1, 1, 0, 2⟩ } ∧
      Presentable (some other) l.gateway m l.layers other ∧ other.digest ≠ m.hash ∧
      (settle (some other) l.gateway m Ledger.exampleSignatures l.layers approving).outcome =
        .error .digestMismatch ∧
      (settle (some stray) l.gateway m Ledger.exampleSignatures l.layers approving).outcome =
        .error .recordNotFound := by
  intro l m committed other stray approving
  have happroved : (l.layers.validate Ledger.exampleSignatures m.hash approving).outcome =
      .ok ⟨1, 1, 0, 2⟩ := by
    decide +kernel
  have hdigest : other.digest ≠ m.hash := by decide +kernel
  have hlimits : m.WithinLimits := ⟨by decide, by decide, by decide, by decide⟩
  have hvia : Layers.Configured .via m.source l.gateway.authority l.layers.via := ⟨rfl, rfl, rfl⟩
  have hchain : Layers.Configured .chain m.source l.gateway.authority l.layers.chain := ⟨rfl, rfl, rfl⟩
  have hproject : ∀ project, l.layers.project = some project →
      Layers.Configured .project m.source l.gateway.authority project := by
    intro project hsupplied
    exact absurd hsupplied.symm (Option.some_ne_none project)
  have hpresentable : Presentable (some other) l.gateway m l.layers other :=
    ⟨rfl, rfl, rfl, hvia, hchain, hproject, hlimits, rfl, rfl⟩
  have hsettleable : Settleable (some committed) l.gateway m Ledger.exampleSignatures l.layers approving
      committed ⟨1, 1, 0, 2⟩ :=
    ⟨rfl, rfl, rfl, hvia, hchain, hproject, hlimits, rfl, rfl, rfl, happroved⟩
  obtain ⟨hok, -, -⟩ :=
    settle_decides (some committed) l.gateway m Ledger.exampleSignatures l.layers approving
  obtain ⟨-, -, hmismatch⟩ :=
    settle_decides (some other) l.gateway m Ledger.exampleSignatures l.layers approving
  exact ⟨happroved, (hok _).2 ⟨rfl, committed, hsettleable⟩, hpresentable, hdigest,
    hmismatch other hpresentable hdigest, rfl⟩

end RelayGate.Delivery
