import RelayGate.Proofs.AccountChecks
import RelayGate.Proofs.Phases
import RelayGate.Proofs.RecordAccounts
import RelayGate.Proofs.RegistryChanges

/-!
# What a call that succeeds does

One statement for each call: what it was checked for, and what became of the slots. A call fills one
slot (`createGateway_ok` and its like), or replaces the record in one, or empties one; only a commit
changes two, that of the marker and that of the counter. Lamports are moved where an account is made or
closed, and nowhere else: apart from that, accounts are rewritten.
-/

namespace RelayGate

variable {α : Type} [Record α] [Storable α] {scheme : AddressScheme} {inv : Invocation}
  {store made after : Store} {address : Key} {out : Program.Outcome}

/-- A record is written to the account that was made for it. -/
theorem Access.slots_writeRecord_made {r : α}
    (hmade : made.slots = Function.update store.slots address .unreadable)
    (h : writeRecord made address r = .ok after) (hr : Storable.Fits r) :
    after.slots = Function.update store.slots address (.holds (stored r)) := by
  have hown : (made.slots address).isOwn = true := by
    rw [hmade, Function.update_self]
    rfl
  rw [slots_writeRecord h hown hr, hmade, Function.update_idem]

/-- A record is written over another one. -/
theorem Access.slots_writeRecord_over {r : α} {x : StoredRecord} (hslot : store.slots address = .holds x)
    (h : writeRecord store address r = .ok after) (hr : Storable.Fits r) :
    after.slots = Function.update store.slots address (.holds (stored r)) := by
  refine slots_writeRecord h ?_ hr
  rw [hslot]
  rfl

namespace Program

/-! ## Gateways and counters -/

theorem createGateway_ok {chain : UInt64} (hprogram : inv.program = .gate)
    (h : (createGateway scheme inv store chain).outcome = .ok out) :
    ∃ c : GatewayCreation, c.Checked scheme inv store chain ∧ chain ≠ 0 ∧
      store.slots c.address = .unclaimed ∧
      out.store.slots = Function.update store.slots c.address
        (.holds (.gateway { authority := c.authority, chain, enabled := true, bump := c.bump })) ∧
      out.events = [.gatewaySwitched chain true] ∧ c.store.Rewrites out.store := by
  simp only [createGateway, Traced.outcome_bind_eq_ok, Traced.outcome_lift, outcome_liftM_gate,
    mapError_eq_ok, ensure_eq_ok, Traced.outcome_say, Traced.outcome_pure, Except.ok.injEq,
    Access.saveRecord_eq_ok, exists_unit_and] at h
  obtain ⟨c, hc, hchain, -, after, hwrite, rfl⟩ := h
  have hchecked := prepareGateway_ok hc
  obtain ⟨houtside, hmade⟩ := RecordAccount.slots_createDeclared hprogram hchecked.made
  exact ⟨c, hchecked, hchain, houtside, Access.slots_writeRecord_made hmade hwrite trivial, rfl,
    Access.rewrites_writeRecord hwrite⟩

theorem switchGateway_ok {enabled : Bool}
    (h : (switchGateway scheme inv store enabled).outcome = .ok out) :
    ∃ address g, Opened scheme store (.gateway g.chain) address (.gateway g) ∧
      (inv.address? 0 = some address ∧ inv.signs g.authority = true) ∧
      out.store.slots = Function.update store.slots address (.holds (.gateway { g with enabled })) ∧
      out.events = [.gatewaySwitched g.chain enabled] ∧ store.Rewrites out.store := by
  simp only [switchGateway, Traced.outcome_bind_eq_ok, Traced.outcome_lift, Prod.exists,
    Traced.outcome_say, Traced.outcome_pure, Except.ok.injEq, Access.saveRecord_eq_ok,
    exists_unit_and] at h
  obtain ⟨address, g, hg, -, after, hwrite, rfl⟩ := h
  obtain ⟨hopened, hsigned⟩ := takeOwnGateway_ok hg
  have hslots := Access.slots_writeRecord_over hopened.slot hwrite trivial
  exact ⟨address, g, hopened, hsigned, hslots, rfl, Access.rewrites_writeRecord hwrite⟩

theorem createCounter_ok {source : UInt64} (hprogram : inv.program = .gate)
    (h : (createCounter scheme inv store source).outcome = .ok out) :
    ∃ c : CounterCreation, c.Checked scheme inv store source ∧ source ≠ 0 ∧
      store.slots c.address = .unclaimed ∧
      out.store.slots = Function.update store.slots c.address
        (.holds (.counter { chain := source, highest := 0, bump := c.bump })) ∧
      out.events = [.counterCreated source c.address c.authority c.gatewayAddress] ∧
      c.store.Rewrites out.store := by
  simp only [createCounter, Traced.outcome_bind_eq_ok, Traced.outcome_lift, outcome_liftM_gate,
    mapError_eq_ok, ensure_eq_ok, Traced.outcome_say, Traced.outcome_pure, Except.ok.injEq,
    Access.saveRecord_eq_ok, exists_unit_and] at h
  obtain ⟨c, hc, hsource, -, after, hwrite, rfl⟩ := h
  have hchecked := prepareCounter_ok hc
  obtain ⟨houtside, hmade⟩ := RecordAccount.slots_createDeclared hprogram hchecked.made
  exact ⟨c, hchecked, hsource, houtside, Access.slots_writeRecord_made hmade hwrite trivial, rfl,
    Access.rewrites_writeRecord hwrite⟩

/-! ## Registries -/

theorem createRegistry_ok {layer : Layer} {chain : UInt64} {signers : List Key} {threshold : UInt8}
    (hprogram : inv.program = .gate)
    (h : (createRegistry scheme inv store layer chain signers threshold).outcome = .ok out) :
    ∃ (c : RegistryCreation) (r : Registry), c.Checked scheme inv store layer chain ∧
      Registry.create layer chain c.authority signers threshold c.bump = .ok r ∧
      store.slots c.address = .unclaimed ∧
      out.store.slots = Function.update store.slots c.address (.holds (.registry r)) ∧
      out.events = [r.event] ∧
      ∃ made, (RecordAccount.create scheme inv store c.address c.authority
        (Registry.space Registry.maxSigners) (RecordKey.registry layer chain).seeds c.bump).outcome =
          .ok made ∧ made.Rewrites out.store := by
  simp only [createRegistry, Traced.outcome_bind_eq_ok, Traced.outcome_lift, outcome_liftM_gate,
    mapError_eq_ok, Traced.outcome_say, Traced.outcome_pure, Except.ok.injEq, exists_unit_and] at h
  obtain ⟨c, hc, r, hr, made, hcreate, after, hwrite, -, rfl⟩ := h
  have hchecked := prepareRegistry_ok hc
  obtain ⟨houtside, hmade⟩ := RecordAccount.slots_create hprogram hcreate
  have hfits : Storable.Fits r := by
    obtain ⟨⟨-, hbounded, -⟩, -, rfl⟩ := Registry.create_eq_ok.1 hr
    exact Nat.lt_of_le_of_lt hbounded (by decide)
  exact ⟨c, r, hchecked, hr, houtside, Access.slots_writeRecord_made hmade hwrite hfits, rfl, made, hcreate,
    Access.rewrites_writeRecord hwrite⟩

theorem changeRegistry_ok {layer : Layer} {chain : UInt64} {change : Registry.Change}
    (h : (changeRegistry scheme inv store layer chain change).outcome = .ok out) :
    ∃ address r r', Opened scheme store (.registry layer chain) address (.registry r) ∧
      inv.signs r.authority = true ∧
      (∃ gatewayAddress g, Opened scheme store (.gateway g.chain) gatewayAddress (.gateway g) ∧
        g.authority = r.authority) ∧
      r.apply change = .ok r' ∧
      out.store.slots = Function.update store.slots address (.holds (.registry r')) ∧
      out.events = [r'.event] ∧ store.Rewrites out.store := by
  simp only [changeRegistry, Traced.outcome_bind_eq_ok, Traced.outcome_lift, outcome_liftM_gate,
    mapError_eq_ok, Prod.exists, Traced.outcome_say, Traced.outcome_pure, Except.ok.injEq,
    Access.saveRecord_eq_ok, exists_unit_and] at h
  obtain ⟨address, r, hr, r', hchange, -, after, hwrite, rfl⟩ := h
  obtain ⟨hopened, hsigned, hgateway⟩ := takeOwnRegistry_ok hr
  have hfits : Storable.Fits r' := by
    have hread := (Account.slot_eq_holds.1 hopened.slot).2
    have hbefore : Storable.Fits r :=
      Record.fits_of_decode Storable.lawful (StoredRecord.read?_eq_some_stored.1 hread)
    exact Nat.lt_of_le_of_lt (Registry.length_signers_of_apply hchange)
      (Nat.max_lt.2 ⟨by decide, hbefore⟩)
  have hslots := Access.slots_writeRecord_over hopened.slot hwrite hfits
  exact ⟨address, r, r', hopened, hsigned, hgateway, hchange, hslots, rfl,
    Access.rewrites_writeRecord hwrite⟩

/-! ## Deliveries -/

theorem request_ok {txId : TxId} {recipient data : Bytes} {destination : UInt64} {confirmations : UInt16}
    (h : (request scheme inv store txId recipient destination data confirmations).outcome = .ok out) :
    ∃ gatewayAddress g sender, Opened scheme store (.gateway g.chain) gatewayAddress (.gateway g) ∧
      (inv.address? 0 = some gatewayAddress ∧ inv.signs sender = true) ∧ g.enabled = true ∧
      Message.checkRequest recipient data = .ok () ∧ out.store = store ∧
      out.events = [.requested txId sender recipient destination data confirmations] := by
  simp only [request, Traced.outcome_bind_eq_ok, Traced.outcome_lift, outcome_liftM_gate,
    mapError_eq_ok, Prod.exists, Traced.outcome_say, Traced.outcome_pure, Except.ok.injEq,
    Gateway.checkEnabled_eq_ok, exists_unit_and] at h
  obtain ⟨g, sender, htake, henabled, hrequest, -, rfl⟩ := h
  obtain ⟨hsigned, gatewayAddress, hnamed, hopened⟩ := takeRequest_ok htake
  exact ⟨gatewayAddress, g, sender, hopened, ⟨hnamed, hsigned⟩, henabled, hrequest, rfl, rfl⟩

/-- A commit finds no marker of its message, leaves one, and moves the counter on. -/
theorem commit_ok {m : Message} {signatures : List Signature} (hprogram : inv.program = .gate)
    (h : (commit scheme inv store m signatures).outcome = .ok out) :
    ∃ a : CommitAccounts, a.Checked scheme inv store m.key ∧
      Delivery.Committable none a.gateway a.counter m signatures ∧
      store.slots a.markerAddress = .unclaimed ∧
      out.store.slots = Function.update
        (Function.update store.slots a.markerAddress
          (.holds (.marker (Delivery.markerOf m a.markerBump))))
        a.counterAddress (.holds (.counter { a.counter with highest := m.txId })) ∧
      out.events = [.committed m.txId m.source m.hash] ∧
      ∃ made, (RecordAccount.create scheme inv store a.markerAddress a.relayer
        (RecordKind.tagSize + Marker.size) (RecordKey.marker m.key).seeds a.markerBump).outcome = .ok made ∧
          made.Rewrites out.store := by
  simp only [commit, Traced.outcome_bind_eq_ok, Traced.outcome_lift, outcome_liftM_traced,
    mapError_eq_ok, Delivery.outcome_commit_eq_ok, Counter.outcome_advance_eq_ok, Traced.outcome_say,
    Traced.outcome_pure, Except.ok.injEq, Access.saveRecord_eq_ok, exists_unit_and] at h
  obtain ⟨a, ha, pending, -, marker, ⟨hcommittable, rfl⟩, made, hcreate, marked, hmark, counter,
    ⟨-, rfl⟩, -, -, after, hcount, rfl⟩ := h
  have hchecked := takeCommit_ok ha
  obtain ⟨houtside, hmade⟩ := RecordAccount.slots_create hprogram hcreate
  have hmarked := Access.slots_writeRecord_made hmade hmark trivial
  have hcounter : (marked.slots a.counterAddress).isOwn = true := by
    rw [hmarked]
    by_cases hsame : a.counterAddress = a.markerAddress
    · rw [hsame, Function.update_self]
      rfl
    · rw [Function.update_of_ne hsame, hchecked.counter.slot]
      rfl
  have hslots := Access.slots_writeRecord hcount hcounter trivial
  rw [hmarked] at hslots
  obtain rfl := hcommittable.absent
  exact ⟨a, hchecked, hcommittable, houtside, hslots, rfl, made, hcreate,
    (Access.rewrites_writeRecord hmark).trans (Access.rewrites_writeRecord hcount)⟩

/-- What the layers of a settlement are asked with: the registries that were opened, and what the
instructions in front of the running one attest. -/
structure SettleInputs (store : Store) (a : SettleAccounts) (layers : Layers)
    (preceding : List Instruction) : Prop where
  via : layers.via = a.via
  chain : layers.chain = a.chain
  project : (store.slots a.projectAddress).record? = layers.project.map stored
  preceding : Instruction.readPreceding (store.account .instructions).data = .ok preceding

theorem loadAttestations_eq_ok {data : Bytes} {attestations : List Attestation} :
    (loadAttestations address data).outcome = .ok attestations ↔
      address = .instructions ∧ ∃ preceding, Instruction.readPreceding data = .ok preceding ∧
        Attestation.ofInstructions preceding = attestations := by
  simp only [loadAttestations, Traced.outcome_bind_eq_ok, Traced.outcome_lift, outcome_liftM_host,
    mapError_eq_ok, ensure_eq_ok, Traced.outcome_tell, Traced.outcome_say, Traced.outcome_pure,
    Except.ok.injEq, exists_unit_and, true_and]

/-- A settlement finds a marker that its message and the signatures satisfy, and removes it. -/
theorem settle_ok {m : Message} {signatures : List Signature} (hprogram : inv.program = .gate)
    (h : (settle scheme inv store m signatures).outcome = .ok out) :
    ∃ (a : SettleAccounts) (layers : Layers) (preceding : List Instruction) (marker : Marker)
        (tally : Tally),
      a.Checked scheme inv store m.key ∧ SettleInputs store a layers preceding ∧
      Delivery.Settleable (some marker) a.gateway m signatures layers
        (Attestation.verifier (Attestation.ofInstructions preceding)) marker tally ∧
      store.slots a.markerAddress = .holds (.marker marker) ∧
      out.store.slots = Function.update store.slots a.markerAddress .unclaimed ∧
      out.events = [.settled m.txId m.source m.hash a.relayer] ∧
      RecordAccount.close store a.markerAddress a.relayer = .ok out.store := by
  simp only [settle, Traced.outcome_bind_eq_ok, Traced.outcome_lift, outcome_liftM_traced,
    mapError_eq_ok, loadAttestations_eq_ok, Delivery.outcome_settle_eq_ok, Traced.outcome_say,
    Traced.outcome_pure, Except.ok.injEq, hprogram, exists_unit_and] at h
  obtain ⟨a, ha, pending, hpending, attestations, ⟨hinstructions, preceding, hpreceding, rfl⟩, project,
    hproject, settlement, ⟨hdigest, marker, hsettleable⟩, after, hclose, -, rfl⟩ := h
  obtain rfl := hsettleable.present
  have hmarker := Slot.record?_eq_some.1 (Account.slot_of_loadOptional hpending)
  rw [hinstructions] at hpreceding
  refine ⟨a, _, preceding, marker, settlement.tally, takeSettle_ok ha,
    ⟨rfl, rfl, Account.slot_of_loadOptional hproject, hpreceding⟩, hsettleable, hmarker,
    RecordAccount.slots_close hclose, ?_, hclose⟩
  rw [hdigest]

end Program

end RelayGate
