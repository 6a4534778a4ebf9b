import RelayGate.Proofs.RecordCreation
import RelayGate.Proofs.StoreLedger

/-!
# Calls that are properly addressed

The other half of what the accounts of a call are checked for: a call that is given the accounts of its
records, with the signatures and the writable accounts that it needs, gets past its account checks
(`takeCommit_of_given`, `takeSettle_of_given`). What it then loads are the records that are found, and
what it writes fits.
-/

namespace RelayGate

variable {α : Type} [Record α] [Storable α] {scheme : AddressScheme} {inv : Invocation} {store : Store}
  {place : Nat} {role : Role} {address : Key} {bump : UInt8} {key : RecordKey} {markerKey : MarkerKey}

/-! ## Loading -/

/-- Where an account that is the gate's holds a record, what is loaded is the record there is. -/
theorem Account.loadOptional_of_slot {a : Account} {found : Option α} (hreadable : a.slot ≠ .unreadable)
    (h : a.slot.record? = found.map stored) : a.loadOptional α .gate = .ok found := by
  unfold loadOptional
  cases found with
  | some r =>
    obtain ⟨howner, hread⟩ := slot_eq_holds.1 (Slot.record?_eq_some.1 h)
    have hdata : a.data ≠ [] := by
      intro hempty
      rw [hempty] at hread
      cases (StoredRecord.read?_zeros 0).symm.trans hread
    rw [if_pos (by simp [isLive, howner, hdata]), StoredRecord.read?_eq_some_stored.1 hread]
    rfl
  | none =>
    have howner : a.owner ≠ .gate := by
      intro howner
      have hown := isOwn_slot.2 howner
      cases hslot : a.slot with
      | unclaimed =>
        rw [hslot] at hown
        cases hown
      | foreign =>
        rw [hslot] at hown
        cases hown
      | unreadable => exact hreadable hslot
      | holds r =>
        rw [hslot] at h
        cases h
    rw [if_neg (by simp [isLive, howner])]

/-- Every account of the gate can be read where records are in order. -/
theorem Ordered.readable (ho : Ordered scheme store.slots) (address : Key) :
    store.slots address ≠ .unreadable := by
  intro hslot
  obtain ⟨r, hholds, -⟩ := ho.placed address (by rw [hslot]; rfl)
  cases hslot.symm.trans hholds

theorem Ordered.loadOptional (ho : Ordered scheme store.slots) {found : Option α}
    (hlocate : scheme.locate key = some (address, bump))
    (h : recordOf scheme store.slots key = found.map stored) :
    (store.account address).loadOptional α .gate = .ok found := by
  refine Account.loadOptional_of_slot (ho.readable address) ?_
  rw [← h, recordOf_eq hlocate]
  rfl

/-- The marker that is found for a key is the one that the ledger of the store has pending. -/
theorem recordOf_marker (hs : scheme.Separates) (ho : Ordered scheme store.slots) :
    recordOf scheme store.slots (.marker markerKey) = (store.markers.get? markerKey).map stored := by
  refine Option.ext fun r => ?_
  constructor
  · intro hfound
    cases r with
    | marker m =>
      rw [(Store.get?_markers hs ho).2 hfound]
      rfl
    | gateway g => cases (ho.found hs hfound).1
    | counter c => cases (ho.found hs hfound).1
    | registry r => cases (ho.found hs hfound).1
  · intro hmarker
    obtain ⟨m, hm, rfl⟩ := Option.map_eq_some_iff.1 hmarker
    exact (Store.get?_markers hs ho).1 hm

/-- What a phase loads from the address of a marker is what the ledger of the store has pending. -/
theorem loadOptional_marker (hs : scheme.Separates) (ho : Ordered scheme store.slots)
    (hprogram : inv.program = .gate)
    (hlocate : scheme.locate (.marker markerKey) = some (address, bump)) :
    (store.account address).loadOptional Marker inv.program = .ok (store.markers.get? markerKey) := by
  rw [hprogram]
  exact ho.loadOptional hlocate (recordOf_marker hs ho)

/-- An account that is named for a record, and holds it, is opened as this record. -/
theorem Ordered.opened (hs : scheme.Separates) (ho : Ordered scheme store.slots) {r : StoredRecord}
    (hnamed : inv.Names scheme place key) (hfound : recordOf scheme store.slots key = some r) :
    ∃ address, inv.address? place = some address ∧ Opened scheme store key address r := by
  obtain ⟨address, bump, hplace, hlocate⟩ := hnamed
  obtain ⟨-, address', hlocate', hslot⟩ := ho.found hs hfound
  obtain ⟨rfl, rfl⟩ := Prod.mk.inj (Option.some.inj (hlocate.symm.trans hlocate'))
  exact ⟨address, hplace, hslot, AddressScheme.derive_of_locate hlocate⟩

/-! ## Writing -/

omit [Storable α] in
theorem Access.exists_writeRecord {r : α}
    (h : (Record.encode r).length ≤ (store.account address).data.length) :
    ∃ after, writeRecord store address r = .ok after ∧
      ∃ data, after = store.put address { store.account address with data } :=
  ⟨_, writeRecord_eq_ok.2 ⟨_, Record.write_eq_ok.2 ⟨h, rfl⟩, rfl⟩, _, rfl⟩

theorem length_encode_marker (m : Marker) :
    (Record.encode m).length = RecordKind.tagSize + Marker.size := by
  simp [Record.encode, Record.codec, Marker.codec, Codec.iso, Codec.pair, Codec.u128, Codec.u64, Codec.u8,
    Codec.fixed, Codec.number, Marker.size, m.digest.length_bytes]

theorem length_encode_counter (c : Counter) :
    (Record.encode c).length = RecordKind.tagSize + Counter.size := by
  simp [Record.encode, Record.codec, Counter.codec, Codec.iso, Codec.pair, Codec.u128, Codec.u64, Codec.u8,
    Codec.fixed, Codec.number, Counter.size]

/-- The account of a record is as long as the record. -/
theorem length_data_of_slot {r : α} (hslot : store.slots address = .holds (stored r)) :
    (Record.encode r).length ≤ (store.account address).data.length := by
  have hread := StoredRecord.read?_eq_some_stored.1 (Account.slot_eq_holds.1 hslot).2
  exact (Record.encode_prefix_of_decode Storable.lawful hread).length_le

/-! ## Commits and settlements -/

namespace Program

open Access

/-- The accounts of a commit are those that it needs: the gateway is any one there is, the others are
those of the message, and the relayer, whose account is not that of a record, can pay for the marker. -/
structure CommitAccounts.Given (scheme : AddressScheme) (inv : Invocation) (store : Store)
    (key : MarkerKey) (a : CommitAccounts) : Prop where
  program : inv.program = .gate
  gateway_named : inv.Names scheme 0 (.gateway a.gateway.chain)
  gateway_found : recordOf scheme store.slots (.gateway a.gateway.chain) = some (.gateway a.gateway)
  marker_named : inv.address? 1 = some a.markerAddress
  marker_located : scheme.locate (.marker key) = some (a.markerAddress, a.markerBump)
  marker_writable : inv.writes a.markerAddress = true
  counter_named : inv.address? 2 = some a.counterAddress
  counter_located : scheme.locate (.counter key.source) = some (a.counterAddress, a.counter.bump)
  counter_found : recordOf scheme store.slots (.counter key.source) = some (.counter a.counter)
  counter_writable : inv.writes a.counterAddress = true
  relayer_named : inv.address? 3 = some a.relayer
  relayer_signs : inv.signs a.relayer = true
  relayer_writable : inv.writes a.relayer = true
  relayer_apart : ∀ key bump, scheme.locate key ≠ some (a.relayer, bump)
  relayer_pays : store.CanPay a.relayer (missing (store.account a.markerAddress).lamports
    (minimumBalance (RecordKind.tagSize + Marker.size)))
  system_named : inv.address? 4 = some .system
  system_runs : (store.account .system).executable = true

namespace CommitAccounts.Given

variable {a : CommitAccounts}

theorem counter_slot (ha : a.Given scheme inv store markerKey) :
    store.slots a.counterAddress = .holds (.counter a.counter) := by
  have hfound := ha.counter_found
  rw [recordOf_eq ha.counter_located] at hfound
  exact Slot.record?_eq_some.1 hfound

theorem counter_ne_marker (hs : scheme.Separates) (ha : a.Given scheme inv store markerKey) :
    a.counterAddress ≠ a.markerAddress := by
  intro hsame
  cases hs.locate_inj ha.marker_located (hsame ▸ ha.counter_located)

theorem counter_ne_relayer (ha : a.Given scheme inv store markerKey) :
    a.counterAddress ≠ a.relayer := by
  intro hsame
  exact ha.relayer_apart _ _ (hsame ▸ ha.counter_located)

/-- The account of the marker can be made where nobody has claimed it. -/
theorem claim (ha : a.Given scheme inv store markerKey)
    (hunclaimed : (store.account a.markerAddress).owner = .system)
    (hempty : (store.account a.markerAddress).data = []) :
    RecordAccount.Claim scheme inv store a.markerAddress a.relayer
      (RecordKind.tagSize + Marker.size) (RecordKey.marker markerKey).seeds a.markerBump where
  vouched := AddressScheme.derive_of_locate ha.marker_located
  writable := ha.marker_writable
  unclaimed := hunclaimed
  empty := hempty
  signed := ha.relayer_signs
  pays := ha.relayer_writable
  other := by
    intro hsame
    exact ha.relayer_apart _ _ (hsame ▸ ha.marker_located)
  funded := ha.relayer_pays

end CommitAccounts.Given

theorem takeCommit_of_given {a : CommitAccounts} (hs : scheme.Separates)
    (ho : Ordered scheme store.slots) (ha : a.Given scheme inv store markerKey) :
    takeCommit scheme inv store markerKey = .ok a := by
  obtain ⟨gatewayAddress, hgateway, hopened⟩ := ho.opened hs ha.gateway_named ha.gateway_found
  simp only [takeCommit, except_bind_eq_ok, Prod.exists, take_eq_ok, takeRecord_eq_ok,
    takeSigner_eq_ok, takeProgram_eq_ok, checkDerived_eq_ok, checkLocated_eq_ok, checkWritable_eq_ok,
    except_pure_eq_ok, exists_unit_and]
  exact ⟨gatewayAddress, a.gateway, ⟨hgateway, hopened.slot⟩, a.markerAddress, ha.marker_named,
    a.counterAddress, a.counter, ⟨ha.counter_named, ha.counter_slot⟩, a.relayer,
    ⟨ha.relayer_named, ha.relayer_signs⟩, .system, ⟨ha.system_named, rfl, ha.system_runs⟩,
    hopened.derived, a.markerBump, ha.marker_located, ha.marker_writable,
    AddressScheme.derive_of_locate ha.counter_located, ha.counter_writable, ha.relayer_writable, rfl⟩

/-- The accounts of a settlement are those that it needs: the gateway is any one there is, the others are
those of the message, and the relayer can take what the marker holds. -/
structure SettleAccounts.Given (scheme : AddressScheme) (inv : Invocation) (store : Store)
    (key : MarkerKey) (a : SettleAccounts) : Prop where
  program : inv.program = .gate
  gateway_named : inv.Names scheme 0 (.gateway a.gateway.chain)
  gateway_found : recordOf scheme store.slots (.gateway a.gateway.chain) = some (.gateway a.gateway)
  marker_named : inv.address? 1 = some a.markerAddress
  marker_located : ∃ bump, scheme.locate (.marker key) = some (a.markerAddress, bump)
  marker_writable : inv.writes a.markerAddress = true
  via_named : inv.Names scheme 2 (.registry .via key.source)
  via_found : recordOf scheme store.slots (.registry .via key.source) = some (.registry a.via)
  chain_named : inv.Names scheme 3 (.registry .chain key.source)
  chain_found : recordOf scheme store.slots (.registry .chain key.source) = some (.registry a.chain)
  project_named : inv.address? 4 = some a.projectAddress
  project_located : ∃ bump, scheme.locate (.registry .project key.source) = some (a.projectAddress, bump)
  relayer_named : inv.address? 5 = some a.relayer
  relayer_signs : inv.signs a.relayer = true
  relayer_writable : inv.writes a.relayer = true
  refundable : (store.account a.relayer).lamports.toNat + (store.account a.markerAddress).lamports.toNat <
    UInt64.size
  instructions_named : inv.address? 6 = some a.instructions
  instructions_shown : a.instructions = .instructions

theorem takeSettle_of_given {a : SettleAccounts} (hs : scheme.Separates)
    (ho : Ordered scheme store.slots) (ha : a.Given scheme inv store markerKey) :
    takeSettle scheme inv store markerKey = .ok a := by
  obtain ⟨gatewayAddress, hgateway, hopened⟩ := ho.opened hs ha.gateway_named ha.gateway_found
  obtain ⟨viaAddress, hvia, hviaOpened⟩ := ho.opened hs ha.via_named ha.via_found
  obtain ⟨chainAddress, hchain, hchainOpened⟩ := ho.opened hs ha.chain_named ha.chain_found
  obtain ⟨bump, hmarker⟩ := ha.marker_located
  obtain ⟨projectBump, hproject⟩ := ha.project_located
  simp only [takeSettle, except_bind_eq_ok, Prod.exists, take_eq_ok, takeRecord_eq_ok,
    takeSigner_eq_ok, checkDerived_eq_ok, checkLocated_eq_ok, checkWritable_eq_ok, ensure_eq_ok,
    except_pure_eq_ok, exists_unit_and]
  exact ⟨gatewayAddress, a.gateway, ⟨hgateway, hopened.slot⟩, a.markerAddress, ha.marker_named,
    viaAddress, a.via, ⟨hvia, hviaOpened.slot⟩, chainAddress, a.chain, ⟨hchain, hchainOpened.slot⟩,
    a.projectAddress, ha.project_named, a.relayer, ⟨ha.relayer_named, ha.relayer_signs⟩,
    a.instructions, ha.instructions_named, hopened.derived, bump, hmarker, ha.marker_writable,
    hviaOpened.derived, hchainOpened.derived, projectBump, hproject, ha.relayer_writable,
    ha.instructions_shown, rfl⟩

end Program

end RelayGate
