import RelayGate.Proofs.Admission
import RelayGate.Proofs.Settlement

/-!
# The store refines the ledger

A commit or a settlement that is properly addressed does in the store what the same phase does in the
ledger that the store holds: it succeeds or fails in the same way, and leaves the ledger that the step
of the ledger leaves (`Store.phases_refine_ledger`). The ledger knows nothing of who owns accounts, so
this takes that no other program sits at the address of the marker; there the gate refuses what the
ledger would accept (`Store.taken_marker_refused`).
-/

namespace RelayGate

variable {scheme : AddressScheme} {inv : Invocation} {store : Store} {t : Transaction} {m : Message}
  {signatures : List Signature} {call : Call} {gateway : Gateway} {layers : Layers}

/-! ## Answers of the ledger -/

namespace Ledger

/-- What a phase of a message announces when a ledger answers so. -/
def Answer.announce (m : Message) (relayer : Key) : Answer → List Event
  | committed marker => [.committed m.txId m.source marker.digest]
  | settled settlement => [.settled m.txId m.source settlement.digest relayer]
  | done => []

theorem Answer.announce_committed {relayer : Key} (x : Except GateError Marker) :
    (x.map committed).map (announce m relayer) =
      x.map fun marker => [.committed m.txId m.source marker.digest] := by
  cases x <;> rfl

theorem Answer.announce_settled {relayer : Key} (x : Except GateError Delivery.Settlement) :
    (x.map settled).map (announce m relayer) =
      x.map fun settlement => [.settled m.txId m.source settlement.digest relayer] := by
  cases x <;> rfl

end Ledger

/-! ## Calls -/

/-- Nothing keeps a record from its address: the account there is the gate's, or nobody has claimed it and
it is empty. -/
def Account.Free (a : Account) : Prop := a.owner = .gate ∨ a.owner = .system ∧ a.data = []

namespace Program

/-- Where no marker is pending, the account at its address is not the gate's. -/
theorem owner_ne_gate_of_absent (hs : scheme.Separates) (ho : Ordered scheme store.slots)
    {key : MarkerKey} {address : Key} {bump : UInt8}
    (hlocate : scheme.locate (.marker key) = some (address, bump))
    (habsent : store.markers.get? key = none) : (store.account address).owner ≠ .gate := by
  intro howner
  obtain ⟨r, hslot, -⟩ := ho.placed address (Account.isOwn_slot.2 howner)
  have hfound : recordOf scheme store.slots (.marker key) = (store.markers.get? key).map stored :=
    recordOf_marker hs ho
  rw [recordOf_eq hlocate, hslot, habsent] at hfound
  cases hfound

/-- A commit that is properly addressed succeeds when it is allowed. -/
theorem exists_commit {a : CommitAccounts} (hs : scheme.Separates) (ho : Ordered scheme store.slots)
    (ha : a.Given scheme inv store m.key) (hfree : (store.account a.markerAddress).Free)
    (hc : Delivery.Committable (store.markers.get? m.key) a.gateway a.counter m signatures) :
    ∃ out, (commit scheme inv store m signatures).outcome = .ok out := by
  have hload := loadOptional_marker hs ho ha.program ha.marker_located
  obtain ⟨hunclaimed, hempty⟩ :=
    hfree.resolve_left (owner_ne_gate_of_absent hs ho ha.marker_located hc.absent)
  obtain ⟨made, hmade, haccounts⟩ :=
    RecordAccount.exists_create (ha.claim hunclaimed hempty) (by decide)
  -- the marker fits into the account that was made for it
  have hmadeLength : (made.account a.markerAddress).data.length =
      RecordKind.tagSize + Marker.size := by
    rw [haccounts, RecordAccount.accountsMade, Function.update_self, RecordAccount.claimed]
    exact List.length_replicate
  have hmarkerLength : (Record.encode (Delivery.markerOf m a.markerBump)).length ≤
      (made.account a.markerAddress).data.length :=
    Nat.le_of_eq ((length_encode_marker _).trans hmadeLength.symm)
  obtain ⟨marked, hmarked, data, rfl⟩ := Access.exists_writeRecord hmarkerLength
  -- the counter's account was not touched: it is neither the marker's nor that of the payer
  have hcounterLength :
      (Record.encode { a.counter with highest := m.txId }).length ≤ ((made.put a.markerAddress
        { made.account a.markerAddress with data }).account a.counterAddress).data.length := by
    rw [Store.account_put_of_ne _ (ha.counter_ne_marker hs), haccounts, RecordAccount.accountsMade,
      Function.update_of_ne (ha.counter_ne_marker hs), Function.update_of_ne ha.counter_ne_relayer,
      length_encode_counter, ← length_encode_counter a.counter]
    exact length_data_of_slot ha.counter_slot
  obtain ⟨after, hafter, -⟩ := Access.exists_writeRecord hcounterLength
  refine ⟨{ store := after, events := [.committed m.txId m.source m.hash] }, ?_⟩
  simp only [commit, Traced.outcome_bind_eq_ok, Traced.outcome_lift, outcome_liftM_traced,
    mapError_eq_ok, Delivery.outcome_commit_eq_ok, Counter.outcome_advance_eq_ok, Traced.outcome_say,
    Traced.outcome_pure, Except.ok.injEq, Access.saveRecord_eq_ok, exists_unit_and]
  exact ⟨a, takeCommit_of_given hs ho ha, _, hload, _, ⟨hc, rfl⟩, made, hmade, _, hmarked, _,
    ⟨hc.fresh, rfl⟩, trivial, trivial, after, hafter, rfl⟩

/-- A commit that is properly addressed ends as the phase ends, with the same error or the event. -/
theorem outcome_commit {a : CommitAccounts} (hs : scheme.Separates) (ho : Ordered scheme store.slots)
    (ha : a.Given scheme inv store m.key) (hfree : (store.account a.markerAddress).Free) :
    (commit scheme inv store m signatures).outcome.map Outcome.events =
      ((Delivery.commit (store.markers.get? m.key) a.gateway a.counter m signatures
        a.markerBump).outcome.map fun marker => [.committed m.txId m.source marker.digest]).mapError
          Rejection.gate := by
  cases hcommit : (Delivery.commit (store.markers.get? m.key) a.gateway a.counter m signatures
      a.markerBump).outcome with
  | error e =>
    have hload := loadOptional_marker hs ho ha.program ha.marker_located
    simp only [commit, Traced.outcome_bind, Traced.outcome_lift, takeCommit_of_given hs ho ha, hload,
      outcome_liftM_traced, hcommit, Except.bind]
    rfl
  | ok marker =>
    obtain ⟨hc, rfl⟩ := Delivery.outcome_commit_eq_ok.1 hcommit
    obtain ⟨out, hout⟩ := exists_commit hs ho ha hfree hc
    obtain ⟨-, -, -, -, -, hevents, -⟩ := commit_ok ha.program hout
    rw [hout, Except.map, hevents]
    rfl

/-- A settlement that is properly addressed ends as the phase ends, with the same error or the event. -/
theorem outcome_settle {a : SettleAccounts} {preceding : List Instruction} (hs : scheme.Separates)
    (ho : Ordered scheme store.slots) (ha : a.Given scheme inv store m.key)
    (hinputs : SettleInputs store a layers preceding) :
    (settle scheme inv store m signatures).outcome.map Outcome.events =
      ((Delivery.settle (store.markers.get? m.key) a.gateway m signatures layers
        (Attestation.verifier (Attestation.ofInstructions preceding))).outcome.map fun settlement =>
          [.settled m.txId m.source settlement.digest a.relayer]).mapError Rejection.gate := by
  obtain ⟨bump, hmarker⟩ := ha.marker_located
  obtain ⟨projectBump, hproject⟩ := ha.project_located
  have hload := loadOptional_marker hs ho ha.program hmarker
  have hloadProject : (store.account a.projectAddress).loadOptional Registry inv.program =
      .ok layers.project := by
    rw [ha.program]
    exact Account.loadOptional_of_slot (ho.readable _) hinputs.project
  have hattestations : (loadAttestations a.instructions (store.account a.instructions).data).outcome =
      .ok (Attestation.ofInstructions preceding) := by
    rw [loadAttestations_eq_ok, ha.instructions_shown]
    exact ⟨rfl, preceding, hinputs.preceding, rfl⟩
  have hlayers : ({ via := a.via, chain := a.chain, project := layers.project } : Layers) = layers := by
    rw [← hinputs.via, ← hinputs.chain]
  have hclose : RecordAccount.close store a.markerAddress a.relayer = .ok _ :=
    RecordAccount.close_eq.trans (except_bind_eq_ok.2 ⟨(), ensure_eq_ok.2 ha.refundable, rfl⟩)
  simp only [settle, Traced.outcome_bind, Traced.outcome_lift, takeSettle_of_given hs ho ha, hload,
    hattestations, hloadProject, hlayers, outcome_liftM_traced, hclose, Except.bind, Traced.outcome_say,
    Traced.outcome_pure]
  cases (Delivery.settle (store.markers.get? m.key) a.gateway m signatures layers
    (Attestation.verifier (Attestation.ofInstructions preceding))).outcome <;> rfl

end Program

/-! ## Transactions -/

/-- What a commit makes of the records. -/
theorem Effect.records_of_commit {records records' : RecordKey → Option StoredRecord}
    (h : Effect scheme inv store records (.commit m signatures) records') :
    ∃ c bump, records (.counter m.source) = some (.counter c) ∧
      records' = Function.update
        (Function.update records (.marker m.key) (some (.marker (Delivery.markerOf m bump))))
        (.counter m.source) (some (.counter { c with highest := m.txId })) := by
  cases h with
  | commit hfound henabled habsent hcounter hfresh => exact ⟨_, _, hcounter, rfl⟩

/-- What a settlement makes of the records. -/
theorem Effect.records_of_settle {records records' : RecordKey → Option StoredRecord}
    (h : Effect scheme inv store records (.settle m signatures) records') :
    records' = Function.update records (.marker m.key) none := by
  cases h with
  | settle hfound henabled hpresent => rfl

namespace Transaction

theorem outcome_execute (hprogram : t.call.program = .gate)
    (hcall : Call.ofData? t.call.data = some call) :
    (t.execute scheme store).outcome = (Program.run scheme t.call (t.expose store) call).outcome := by
  obtain ⟨kind, hkind, hdecode⟩ := Option.bind_eq_some_iff.1 hcall
  have hread : Program.readArguments kind t.call.data = .ok call := by
    rw [Program.readArguments, hdecode]
  rw [execute, Program.enter, ensure, if_pos hprogram, hkind]
  simp only [Traced.outcome_bind, Traced.outcome_lift, Traced.outcome_say, hread, Except.bind]

/-- A transaction does in a store what a step does in the ledger that the store holds: it succeeds or
fails in the same way, and leaves the same ledger. -/
structure Mirrors (scheme : AddressScheme) (t : Transaction) (store : Store) (gateway : Gateway)
    (layers : Layers) (step : Ledger.Step) (announce : Ledger.Answer → List Event) : Prop where
  outcome : (t.execute scheme store).outcome.map Program.Outcome.events =
    (((store.ledger gateway layers).step step).2.outcome.map announce).mapError Rejection.gate
  ledger : (t.apply scheme store).ledger gateway layers = ((store.ledger gateway layers).step step).1

/-- A transaction that ends like a step mirrors it, when its effect is the one of the step, and the step
changes nothing if it fails. -/
theorem mirrors_of_outcome {step : Ledger.Step} {announce : Ledger.Answer → List Event}
    (hs : scheme.Separates) (ho : Ordered scheme store.slots)
    (hcall : Call.ofData? t.call.data = some call)
    (houtcome : (t.execute scheme store).outcome.map Program.Outcome.events =
      (((store.ledger gateway layers).step step).2.outcome.map announce).mapError Rejection.gate)
    (hok : ((store.ledger gateway layers).step step).2.outcome.isOk = true →
      Effect scheme t.call (t.await store) (recordOf scheme store.slots) call
          (recordOf scheme (t.apply scheme store).slots) →
        (t.apply scheme store).ledger gateway layers = ((store.ledger gateway layers).step step).1)
    (herror : ((store.ledger gateway layers).step step).2.outcome.isOk = false →
      ((store.ledger gateway layers).step step).1 = store.ledger gateway layers) :
    t.Mirrors scheme store gateway layers step announce := by
  refine ⟨houtcome, ?_⟩
  cases hstep : ((store.ledger gateway layers).step step).2.outcome with
  | error e =>
    have hexpose : t.apply scheme store = t.expose store := by
      cases hout : (t.execute scheme store).outcome with
      | error e => rw [apply, hout]
      | ok out =>
        rw [hout, hstep] at houtcome
        cases houtcome
    rw [herror (by rw [hstep]; rfl), hexpose]
    exact Store.ledger_congr hs ho (t.ordered_expose ho) (recordOf_expose ho t)
  | ok answer =>
    obtain ⟨out, hout⟩ : ∃ out, (t.execute scheme store).outcome = .ok out := by
      cases hout : (t.execute scheme store).outcome with
      | error e =>
        rw [hout, hstep] at houtcome
        cases houtcome
      | ok out => exact ⟨out, rfl⟩
    exact hok (by rw [hstep]; rfl) (t.effect_of_ok hs ho hcall hout)

/-- The markers are the same when it is the call's turn. -/
theorem markers_expose (hs : scheme.Separates) (ho : Ordered scheme store.slots) (t : Transaction) :
    (t.expose store).markers = store.markers := by
  refine Table.ext fun key => Option.ext fun m => ?_
  rw [Store.get?_markers hs (t.ordered_expose ho), recordOf_expose ho, Store.get?_markers hs ho]

theorem mirrors_commit {a : Program.CommitAccounts} (hs : scheme.Separates)
    (ho : Ordered scheme store.slots)
    (hcall : Call.ofData? t.call.data = some (.commit m signatures))
    (ha : a.Given scheme t.call (t.expose store) m.key)
    (hfree : ((t.expose store).account a.markerAddress).Free) :
    t.Mirrors scheme store a.gateway layers (.commit m signatures a.markerBump)
      (Ledger.Answer.announce m a.relayer) := by
  have hfound := ha.counter_found
  rw [recordOf_expose ho] at hfound
  have hget : (store.ledger a.gateway layers).counters.get? m.source = some a.counter :=
    (Store.get?_counters hs ho).2 hfound
  have hcounter := Ledger.counter_of_get? hget
  refine mirrors_of_outcome hs ho hcall ?_ ?_ ?_
  · rw [outcome_execute ha.program hcall, Program.run,
      Program.outcome_commit hs (t.ordered_expose ho) ha hfree, markers_expose hs ho, Ledger.step,
      Ledger.outcome_commit, hcounter, Ledger.Answer.announce_committed]
    rfl
  · intro hstep heffect
    obtain ⟨-, -, hstate⟩ := Ledger.commit_of_isOk hstep
    obtain ⟨c, bump, hc, hrecords⟩ := heffect.records_of_commit
    obtain rfl := StoredRecord.counter.inj (Option.some.inj (hfound.symm.trans hc))
    -- the marker is stored with the bump of its address
    have hmarker : recordOf scheme (t.apply scheme store).slots (.marker m.key) =
        some (.marker (Delivery.markerOf m bump)) := by
      rw [hrecords, Function.update_of_ne (by simp), Function.update_self]
    obtain ⟨-, address, hlocate, -⟩ := (t.ordered_apply ho).found hs hmarker
    obtain ⟨-, rfl⟩ := Prod.mk.inj (Option.some.inj (ha.marker_located.symm.trans hlocate))
    obtain ⟨hpending, hcounters⟩ := Store.tables_of_commit hs ho (t.ordered_apply ho) hrecords
    rw [Ledger.step, hstate, hcounter, Table.insert_insert, Store.ledger, hpending, hcounters]
    rfl
  · intro hstep
    rw [Ledger.step, Ledger.commit_of_not_isOk hstep, hcounter, Table.insert_of_get? hget]

theorem mirrors_settle {a : Program.SettleAccounts} {preceding : List Instruction}
    (hs : scheme.Separates) (ho : Ordered scheme store.slots)
    (hcall : Call.ofData? t.call.data = some (.settle m signatures))
    (ha : a.Given scheme t.call (t.expose store) m.key)
    (hinputs : Program.SettleInputs (t.expose store) a layers preceding) :
    t.Mirrors scheme store a.gateway layers
      (.settle m signatures (Attestation.verifier (Attestation.ofInstructions preceding)))
      (Ledger.Answer.announce m a.relayer) := by
  refine mirrors_of_outcome hs ho hcall ?_ ?_ ?_
  · rw [outcome_execute ha.program hcall, Program.run,
      Program.outcome_settle hs (t.ordered_expose ho) ha hinputs, markers_expose hs ho, Ledger.step,
      Ledger.outcome_settle, Ledger.Answer.announce_settled, Store.layers_ledger]
    rfl
  · intro hstep heffect
    obtain ⟨marker, tally, -, -, hstate⟩ := Ledger.settle_of_isOk hstep
    obtain ⟨hpending, hcounters⟩ :=
      Store.tables_of_settle hs ho (t.ordered_apply ho) heffect.records_of_settle
    rw [Ledger.step, hstate, Store.ledger, hpending, hcounters]
    rfl
  · intro hstep
    rw [Ledger.step, Ledger.settle_of_not_isOk hstep]

/-- A commit is refused where something keeps the marker from its address. -/
theorem refused_of_taken {a : Program.CommitAccounts} (hs : scheme.Separates)
    (ho : Ordered scheme store.slots)
    (hcall : Call.ofData? t.call.data = some (.commit m signatures))
    (ha : a.Given scheme t.call (t.expose store) m.key)
    (htaken : ¬((t.expose store).account a.markerAddress).Free) :
    (t.execute scheme store).outcome.isOk = false ∧ t.apply scheme store = t.expose store := by
  cases hout : (t.execute scheme store).outcome with
  | error e =>
    refine ⟨rfl, ?_⟩
    rw [apply, hout]
  | ok out =>
    rw [outcome_execute ha.program hcall, Program.run, Program.commit] at hout
    simp only [Traced.outcome_bind_eq_ok, Traced.outcome_lift,
      Program.takeCommit_of_given hs (t.ordered_expose ho) ha, Except.ok.injEq, exists_eq_left'] at hout
    obtain ⟨pending, -, marker, -, made, hmade, -⟩ := hout
    exact absurd (.inr (RecordAccount.unclaimed_of_create hmade)) htaken

end Transaction

namespace Store

/-! ## An example -/

/-- The accounts that the commit of the example takes. -/
def exampleCommitAccounts : Program.CommitAccounts :=
  { gateway := exampleGateway
    markerAddress := exampleAddress (.marker Ledger.exampleMessage.key)
    markerBump := 253
    counterAddress := exampleAddress (.counter 43113)
    counter := { chain := 43113, highest := 0, bump := 253 }
    relayer := .filled 32 7 }

/-- The accounts that the settlement of the example takes. -/
def exampleSettleAccounts : Program.SettleAccounts :=
  { gateway := exampleGateway
    markerAddress := exampleAddress (.marker Ledger.exampleMessage.key)
    via := exampleLayers.via
    chain := exampleLayers.chain
    projectAddress := exampleAddress (.registry .project 43113)
    relayer := .filled 32 7
    instructions := .instructions }

/-- The relayer of the example has no address of a record. -/
theorem locate_ne_exampleRelayer (key : RecordKey) (bump : UInt8) :
    exampleScheme.locate key ≠ some (.filled 32 7, bump) := by
  intro hlocate
  obtain ⟨e, he, -, haddress⟩ := mem_of_derive_exampleScheme (AddressScheme.derive_of_locate hlocate)
  have hother : ∀ e ∈ exampleAddresses, keyOfNat e.2.2 ≠ .filled 32 7 := by decide +kernel
  exact hother e he haddress

/-- In a store where the example is set up, its commit is properly addressed. -/
theorem exampleCommit_given
    (hgateway : recordOf exampleScheme store.slots (.gateway 2) = some (.gateway exampleGateway))
    (hcounter : recordOf exampleScheme store.slots (.counter 43113) =
      some (.counter exampleCommitAccounts.counter))
    (hpays : store.CanPay (.filled 32 7)
      (missing (store.account (exampleAddress (.marker Ledger.exampleMessage.key))).lamports
        (minimumBalance (RecordKind.tagSize + Marker.size))))
    (hsystem : (store.account .system).executable = true) :
    exampleCommitAccounts.Given exampleScheme exampleCommit.call store Ledger.exampleMessage.key where
  program := rfl
  gateway_named := ⟨exampleAddress (.gateway 2), 254, rfl, by decide +kernel⟩
  gateway_found := hgateway
  marker_named := rfl
  marker_located := by decide +kernel
  marker_writable := by decide +kernel
  counter_named := rfl
  counter_located := by decide +kernel
  counter_found := hcounter
  counter_writable := by decide +kernel
  relayer_named := rfl
  relayer_signs := by decide +kernel
  relayer_writable := by decide +kernel
  relayer_apart := locate_ne_exampleRelayer
  relayer_pays := hpays
  system_named := rfl
  system_runs := hsystem

/-- The settlement of the example is properly addressed when its message is committed. -/
theorem exampleSettle_given :
    exampleSettleAccounts.Given exampleScheme exampleSettle.call (exampleSettle.expose exampleCommitted)
      Ledger.exampleMessage.key where
  program := rfl
  gateway_named := ⟨exampleAddress (.gateway 2), 254, rfl, by decide +kernel⟩
  gateway_found := by decide +kernel
  marker_named := rfl
  marker_located := ⟨253, by decide +kernel⟩
  marker_writable := by decide +kernel
  via_named := ⟨exampleAddress (.registry .via 43113), 255, rfl, by decide +kernel⟩
  via_found := by decide +kernel
  chain_named := ⟨exampleAddress (.registry .chain 43113), 255, rfl, by decide +kernel⟩
  chain_found := by decide +kernel
  project_named := rfl
  project_located := ⟨255, by decide +kernel⟩
  relayer_named := rfl
  relayer_signs := by decide +kernel
  relayer_writable := by decide +kernel
  refundable := by decide +kernel
  instructions_named := rfl
  instructions_shown := rfl

/-- The store of the example when it is set up. -/
def exampleReady : Store := exampleStore.after exampleScheme exampleSetup

/-- The same where the loader owns the account at the address of the marker. -/
def exampleTaken : Store :=
  (exampleStore.put (exampleAddress (.marker Ledger.exampleMessage.key))
    { owner := .loader, lamports := 1 }).after exampleScheme exampleSetup

theorem reachable_exampleTaken : Reachable exampleScheme exampleTaken := by
  refine (Reachable.start (unowned_of_entries ?_)).after _
  decide +kernel

theorem exampleCommit_given_ready :
    exampleCommitAccounts.Given exampleScheme exampleCommit.call (exampleCommit.expose exampleReady)
      Ledger.exampleMessage.key := by
  refine exampleCommit_given ?_ ?_ (.inr ⟨?_, ?_, ?_⟩) ?_ <;> decide +kernel

theorem exampleCommit_given_taken :
    exampleCommitAccounts.Given exampleScheme exampleCommit.call (exampleCommit.expose exampleTaken)
      Ledger.exampleMessage.key := by
  refine exampleCommit_given ?_ ?_ (.inr ⟨?_, ?_, ?_⟩) ?_ <;> decide +kernel

/-! ## Refinement -/

/-- In every store that transactions lead to, a phase that is properly addressed does what the same step
does in the ledger that the store holds, with the attestations of the instructions in front of it: it ends
with the event that the answer announces, or with the same error, and leaves the ledger that the step
leaves. For a commit this takes that nothing keeps the marker from its address; otherwise it is refused,
and the ledger stays. Addresses are to separate records at every bump, as the accounts of a phase are
opened with the bumps that their records state. -/
theorem phases_refine_ledger (hs : scheme.Separates) (hreach : Reachable scheme store) (t : Transaction)
    (m : Message) (signatures : List Signature) (layers : Layers) :
    (∀ a : Program.CommitAccounts, Call.ofData? t.call.data = some (.commit m signatures) →
      a.Given scheme t.call (t.expose store) m.key →
        (((t.expose store).account a.markerAddress).Free →
          t.Mirrors scheme store a.gateway layers (.commit m signatures a.markerBump)
            (Ledger.Answer.announce m a.relayer)) ∧
        (¬((t.expose store).account a.markerAddress).Free →
          (t.execute scheme store).outcome.isOk = false ∧
            (t.apply scheme store).ledger a.gateway layers = store.ledger a.gateway layers)) ∧
    ∀ (a : Program.SettleAccounts) (preceding : List Instruction),
      Call.ofData? t.call.data = some (.settle m signatures) →
        a.Given scheme t.call (t.expose store) m.key →
          Program.SettleInputs (t.expose store) a layers preceding →
            t.Mirrors scheme store a.gateway layers
                (.settle m signatures (Attestation.verifier (Attestation.ofInstructions preceding)))
                (Ledger.Answer.announce m a.relayer) ∧
              (t.shown = none →
                (Instruction.encodeList t.instructions t.before.length).length < UInt16.size →
                  preceding = t.before) := by
  have ho := hreach.ordered
  constructor
  · intro a hcall ha
    refine ⟨fun hfree => Transaction.mirrors_commit hs ho hcall ha hfree, fun htaken => ?_⟩
    obtain ⟨hrefused, happly⟩ := Transaction.refused_of_taken hs ho hcall ha htaken
    rw [happly]
    exact ⟨hrefused, ledger_congr hs ho (t.ordered_expose ho) (recordOf_expose ho t)⟩
  · intro a preceding hcall ha hinputs
    refine ⟨Transaction.mirrors_settle hs ho hcall ha hinputs, ?_⟩
    have hread := hinputs.preceding
    rw [Transaction.expose, account_put_self] at hread
    exact Transaction.readPreceding_sysvarData hread

theorem phases_refine_ledger_in_example :
    exampleScheme.Separates ∧ Reachable exampleScheme exampleReady ∧
      Reachable exampleScheme exampleTaken ∧ Reachable exampleScheme exampleCommitted ∧
      (exampleCommit.Mirrors exampleScheme exampleReady exampleGateway exampleLayers
          (.commit Ledger.exampleMessage Ledger.exampleSignatures 253)
          (Ledger.Answer.announce Ledger.exampleMessage (.filled 32 7)) ∧
        (exampleCommit.execute exampleScheme exampleReady).outcome.isOk = true) ∧
      (exampleCommit.execute exampleScheme exampleTaken).outcome.isOk = false ∧
      exampleSettle.Mirrors exampleScheme exampleCommitted exampleGateway exampleLayers
          (.settle Ledger.exampleMessage Ledger.exampleSignatures
            (Attestation.verifier (Attestation.ofInstructions exampleSettle.before)))
          (Ledger.Answer.announce Ledger.exampleMessage (.filled 32 7)) ∧
        (exampleSettle.execute exampleScheme exampleCommitted).outcome.isOk = true := by
  have hready : Reachable exampleScheme exampleReady := (Reachable.start unowned_exampleStore).after _
  have hcommitted : Reachable exampleScheme exampleCommitted :=
    (Reachable.start unowned_exampleStore).after _
  have hcommitCall : Call.ofData? exampleCommit.call.data =
      some (.commit Ledger.exampleMessage Ledger.exampleSignatures) := by
    decide +kernel
  have hsettleCall : Call.ofData? exampleSettle.call.data =
      some (.settle Ledger.exampleMessage Ledger.exampleSignatures) := by
    decide +kernel
  have hfree : ((exampleCommit.expose exampleReady).account
      exampleCommitAccounts.markerAddress).Free := by
    refine .inr ⟨?_, ?_⟩ <;> decide +kernel
  have htaken : ¬((exampleCommit.expose exampleTaken).account
      exampleCommitAccounts.markerAddress).Free := by
    rintro (howner | ⟨howner, -⟩) <;> revert howner <;> decide +kernel
  have hinputs : Program.SettleInputs (exampleSettle.expose exampleCommitted) exampleSettleAccounts
      exampleLayers exampleSettle.before :=
    { via := rfl
      chain := rfl
      project := by decide +kernel
      preceding := by decide +kernel }
  obtain ⟨hcommit, -⟩ := phases_refine_ledger exampleScheme_separates hready exampleCommit
    Ledger.exampleMessage Ledger.exampleSignatures exampleLayers
  obtain ⟨hrefused, -⟩ := phases_refine_ledger exampleScheme_separates reachable_exampleTaken exampleCommit
    Ledger.exampleMessage Ledger.exampleSignatures exampleLayers
  obtain ⟨-, hsettle⟩ := phases_refine_ledger exampleScheme_separates hcommitted exampleSettle
    Ledger.exampleMessage Ledger.exampleSignatures exampleLayers
  refine ⟨exampleScheme_separates, hready, reachable_exampleTaken, hcommitted, ⟨?_, ?_⟩, ?_, ?_, ?_⟩
  · exact (hcommit exampleCommitAccounts hcommitCall exampleCommit_given_ready).1 hfree
  · decide +kernel
  · exact ((hrefused exampleCommitAccounts hcommitCall exampleCommit_given_taken).2 htaken).1
  · exact (hsettle exampleSettleAccounts _ hsettleCall exampleSettle_given hinputs).1
  · decide +kernel

/-- Where another program owns the account at the marker's address, a commit that the ledger accepts is
refused, however it is addressed. -/
theorem taken_marker_refused :
    exampleScheme.Separates ∧ Reachable exampleScheme exampleTaken ∧
      exampleCommitAccounts.Given exampleScheme exampleCommit.call (exampleCommit.expose exampleTaken)
        Ledger.exampleMessage.key ∧
      Call.ofData? exampleCommit.call.data =
        some (.commit Ledger.exampleMessage Ledger.exampleSignatures) ∧
      ((exampleTaken.ledger exampleGateway exampleLayers).step
        (.commit Ledger.exampleMessage Ledger.exampleSignatures 253)).2.outcome.isOk = true ∧
      (exampleCommit.execute exampleScheme exampleTaken).outcome.map Program.Outcome.events =
        .error (Rejection.gate .alreadyExists) := by
  refine ⟨exampleScheme_separates, reachable_exampleTaken, exampleCommit_given_taken, ?_, ?_, ?_⟩
  · decide +kernel
  · decide +kernel
  · decide +kernel

end Store

end RelayGate
