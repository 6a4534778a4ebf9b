import RelayGate.Program
import RelayGate.Proofs.StoredRecords

/-!
# What the accounts of a call have been checked for

A call that gets past its account checks was given what it needs: each record was opened at an address
that is derived from what the record has to be about, each account that has to authorize the call
signed, and a record that is to be made has its own address.
-/

namespace RelayGate

variable {α : Type} [Record α] {scheme : AddressScheme} {inv : Invocation} {store : Store}
  {place : Nat} {role : Role} {address program : Key} {bump : UInt8} {key : RecordKey}

/-- The address at a place of a call. -/
def Invocation.address? (inv : Invocation) (place : Nat) : Option Key :=
  inv.accounts[place]?.map AccountMeta.key

/-- A record of any kind that is opened under a key: it is in the store, at an address that the key
has with the bump that the record states. Which key the record itself names is not looked at. -/
structure Opened (scheme : AddressScheme) (store : Store) (key : RecordKey) (address : Key)
    (r : StoredRecord) : Prop where
  slot : store.slots address = .holds r
  derived : scheme.derive key.seeds r.bump = some address

namespace Access

theorem take_eq_ok : take inv place role = .ok address ↔ inv.address? place = some address := by
  unfold take Invocation.address?
  cases inv.accounts[place]? <;> simp

theorem takeNew_eq_ok : takeNew inv place = .ok address ↔ inv.address? place = some address := by
  unfold takeNew Invocation.address?
  cases inv.accounts[place]? <;> simp

theorem takeSigner_eq_ok :
    takeSigner inv place role = .ok address ↔
      inv.address? place = some address ∧ inv.signs address = true := by
  simp only [takeSigner, except_bind_eq_ok, take_eq_ok, ensure_eq_ok, except_pure_eq_ok, exists_const]
  constructor
  · rintro ⟨key, hplace, hsigned, rfl⟩
    exact ⟨hplace, hsigned⟩
  · rintro ⟨hplace, hsigned⟩
    exact ⟨address, hplace, hsigned, rfl⟩

theorem takeProgram_eq_ok :
    takeProgram inv store program place role = .ok address ↔
      inv.address? place = some address ∧ address = program ∧
        (store.account address).executable = true := by
  simp only [takeProgram, except_bind_eq_ok, take_eq_ok, ensure_eq_ok, except_pure_eq_ok, exists_const]
  constructor
  · rintro ⟨key, hplace, hprogram, hexecutable, rfl⟩
    exact ⟨hplace, hprogram, hexecutable⟩
  · rintro ⟨hplace, hprogram, hexecutable⟩
    exact ⟨address, hplace, hprogram, hexecutable, rfl⟩

theorem takeRecord_eq_ok [Storable α] {r : α} :
    takeRecord α inv store place role = .ok (address, r) ↔
      inv.address? place = some address ∧ store.slots address = .holds (stored r) := by
  simp only [takeRecord, except_bind_eq_ok, take_eq_ok, load_eq_ok, except_pure_eq_ok, Prod.mk.injEq]
  constructor
  · rintro ⟨key, hplace, r', hslot, rfl, rfl⟩
    exact ⟨hplace, hslot⟩
  · rintro ⟨hplace, hslot⟩
    exact ⟨address, hplace, r, hslot, rfl, rfl⟩

theorem takeProgramData_eq_ok {authority : Option Key} :
    takeProgramData inv store place role = .ok (address, authority) ↔
      inv.address? place = some address ∧ (store.account address).owner = .loader ∧
        ∃ slot, LoaderState.decode (store.account address).data =
          some (.programData slot authority) := by
  have hsystem : (Key.loader = Key.system) = False := by decide
  simp only [takeProgramData, checkOwner, except_bind_eq_ok, take_eq_ok, ensure_eq_ok, exists_const]
  constructor
  · rintro ⟨key, hplace, ⟨-, howner⟩, h⟩
    split at h
    · next slot authority' hdata =>
      simp only [except_pure_eq_ok, Prod.mk.injEq] at h
      obtain ⟨rfl, rfl⟩ := h
      exact ⟨hplace, howner, slot, hdata⟩
    · cases h
    · cases h
  · rintro ⟨hplace, howner, slot, hdata⟩
    refine ⟨address, hplace, ⟨?_, howner⟩, ?_⟩
    · simp [howner, hsystem]
    · rw [hdata]
      rfl

theorem check_eq_ok {condition : Prop} [Decidable condition] {e : GateError} {u : Unit} :
    check condition e role = .ok u ↔ condition :=
  ensure_eq_ok

theorem checkWritable_eq_ok {u : Unit} :
    checkWritable inv address role = .ok u ↔ inv.writes address = true :=
  ensure_eq_ok

theorem checkDerived_eq_ok {u : Unit} :
    checkDerived scheme address key bump role = .ok u ↔ scheme.derive key.seeds bump = some address :=
  ensure_eq_ok

theorem checkLocated_eq_ok :
    checkLocated scheme address key role = .ok bump ↔ scheme.locate key = some (address, bump) := by
  unfold checkLocated
  cases hlocate : scheme.locate key with
  | none => simp
  | some found =>
    obtain ⟨address', bump'⟩ := found
    by_cases h : address = address'
    · simp [h]
    · simp [h, Ne.symm h]

theorem checkGateway_eq_ok {g : Gateway} {authority : Key} {u : Unit} :
    checkGateway scheme address g authority = .ok u ↔
      scheme.derive (RecordKey.gateway g.chain).seeds g.bump = some address ∧
        g.authority = authority := by
  simp [checkGateway, Gateway.isAuthority, except_bind_eq_ok, checkDerived_eq_ok, check_eq_ok]

end Access

namespace Program

open Access

/-! ## Gateways and counters -/

/-- The gateway is to be made at its own address, by the key that the loader keeps for the gate. -/
structure GatewayCreation.Checked (scheme : AddressScheme) (inv : Invocation) (store : Store)
    (chain : UInt64) (c : GatewayCreation) : Prop where
  located : scheme.locate (.gateway chain) = some (c.address, c.bump)
  payer : inv.address? 1 = some c.authority
  signed : inv.signs c.authority = true
  made : RecordAccount.createDeclared scheme inv store c.address c.authority
    (RecordKind.tagSize + Gateway.size) (RecordKey.gateway chain).seeds c.bump = .ok c.store
  replacer : ∃ dataAddress slot, programDataAddress c.store .gate = .ok (some dataAddress) ∧
    (store.account dataAddress).owner = .loader ∧
      LoaderState.decode (store.account dataAddress).data = some (.programData slot (some c.authority))

theorem prepareGateway_ok {chain : UInt64} {c : GatewayCreation}
    (h : prepareGateway scheme inv store chain = .ok c) : c.Checked scheme inv store chain := by
  simp only [prepareGateway, except_bind_eq_ok, Prod.exists, takeNew_eq_ok, takeSigner_eq_ok,
    takeProgram_eq_ok, takeProgramData_eq_ok, checkLocated_eq_ok, checkWritable_eq_ok, check_eq_ok,
    ensure_eq_ok, except_pure_eq_ok, exists_unit_and] at h
  obtain ⟨address, -, authority, ⟨hpayer, hsigned⟩, program, ⟨-, rfl, -⟩, dataAddress, replacer,
    ⟨-, howner, slot, hdata⟩, system, -, bump, hlocated, made, hmade, -, expected, hexpected, hsame,
    hreplacer, rfl⟩ := h
  subst hsame hreplacer
  exact ⟨hlocated, hpayer, hsigned, hmade, dataAddress, slot, hexpected, howner, hdata⟩

/-- A gateway that its authority may switch. -/
theorem takeOwnGateway_ok {g : Gateway} (h : takeOwnGateway scheme inv store = .ok (address, g)) :
    Opened scheme store (.gateway g.chain) address (.gateway g) ∧
      inv.address? 0 = some address ∧ inv.signs g.authority = true := by
  simp only [takeOwnGateway, except_bind_eq_ok, Prod.exists, takeRecord_eq_ok, takeSigner_eq_ok,
    checkDerived_eq_ok, checkWritable_eq_ok, check_eq_ok, except_pure_eq_ok, exists_unit_and,
    Prod.mk.injEq, Gateway.isAuthority, beq_iff_eq] at h
  obtain ⟨address', g', ⟨hnamed, hslot⟩, authority, ⟨-, hsigned⟩, hderived, -, rfl, rfl, rfl⟩ := h
  exact ⟨⟨hslot, hderived⟩, hnamed, hsigned⟩

/-- The counter is to be made at its own address, by the authority of a gateway that is open. -/
structure CounterCreation.Checked (scheme : AddressScheme) (inv : Invocation) (store : Store)
    (source : UInt64) (c : CounterCreation) : Prop where
  located : scheme.locate (.counter source) = some (c.address, c.bump)
  payer : inv.address? 1 = some c.authority
  signed : inv.signs c.authority = true
  made : RecordAccount.createDeclared scheme inv store c.address c.authority
    (RecordKind.tagSize + Counter.size) (RecordKey.counter source).seeds c.bump = .ok c.store
  named : inv.address? 2 = some c.gatewayAddress
  gateway : ∃ g, Opened scheme store (.gateway g.chain) c.gatewayAddress (.gateway g) ∧
    g.authority = c.authority ∧ g.enabled = true

theorem prepareCounter_ok {source : UInt64} {c : CounterCreation}
    (h : prepareCounter scheme inv store source = .ok c) : c.Checked scheme inv store source := by
  simp only [prepareCounter, except_bind_eq_ok, Prod.exists, takeNew_eq_ok, takeSigner_eq_ok,
    takeRecord_eq_ok, takeProgram_eq_ok, checkLocated_eq_ok, checkWritable_eq_ok, checkGateway_eq_ok,
    check_eq_ok, except_pure_eq_ok, exists_unit_and] at h
  obtain ⟨address, -, authority, ⟨hpayer, hsigned⟩, gatewayAddress, g, ⟨hnamed, hslot⟩, system, -, bump,
    hlocated, made, hmade, -, ⟨hderived, hauthority⟩, henabled, rfl⟩ := h
  exact ⟨hlocated, hpayer, hsigned, hmade, hnamed, g, ⟨hslot, hderived⟩, hauthority, henabled⟩

/-! ## Registries -/

/-- The registry is to be made at its own address, by the authority of a gateway. -/
structure RegistryCreation.Checked (scheme : AddressScheme) (inv : Invocation) (store : Store)
    (layer : Layer) (chain : UInt64) (c : RegistryCreation) : Prop where
  located : scheme.locate (.registry layer chain) = some (c.address, c.bump)
  payer : inv.address? 2 = some c.authority
  signed : inv.signs c.authority = true
  gateway : ∃ gatewayAddress g,
    Opened scheme store (.gateway g.chain) gatewayAddress (.gateway g) ∧ g.authority = c.authority

theorem prepareRegistry_ok {layer : Layer} {chain : UInt64} {c : RegistryCreation}
    (h : prepareRegistry scheme inv store layer chain = .ok c) :
    c.Checked scheme inv store layer chain := by
  simp only [prepareRegistry, except_bind_eq_ok, Prod.exists, take_eq_ok, takeSigner_eq_ok,
    takeRecord_eq_ok, takeProgram_eq_ok, checkLocated_eq_ok, checkWritable_eq_ok, checkGateway_eq_ok,
    except_pure_eq_ok, exists_unit_and] at h
  obtain ⟨address, -, gatewayAddress, g, ⟨-, hslot⟩, authority, ⟨hpayer, hsigned⟩, system, -, bump,
    hlocated, -, ⟨hderived, hauthority⟩, -, rfl⟩ := h
  exact ⟨hlocated, hpayer, hsigned, gatewayAddress, g, ⟨hslot, hderived⟩, hauthority⟩

/-- A registry that its authority may change, who is the authority of some gateway, too. -/
theorem takeOwnRegistry_ok {layer : Layer} {chain : UInt64} {r : Registry}
    (h : takeOwnRegistry scheme inv store layer chain = .ok (address, r)) :
    Opened scheme store (.registry layer chain) address (.registry r) ∧
      inv.signs r.authority = true ∧
        ∃ gatewayAddress g, Opened scheme store (.gateway g.chain) gatewayAddress (.gateway g) ∧
          g.authority = r.authority := by
  simp only [takeOwnRegistry, except_bind_eq_ok, Prod.exists, takeRecord_eq_ok, takeSigner_eq_ok,
    checkDerived_eq_ok, checkWritable_eq_ok, checkGateway_eq_ok, check_eq_ok, except_pure_eq_ok,
    exists_unit_and, Prod.mk.injEq] at h
  obtain ⟨address', r', ⟨-, hslot⟩, gatewayAddress, g, ⟨-, hgslot⟩, authority, ⟨-, hsigned⟩, hderived, -,
    rfl, ⟨hgderived, hauthority⟩, rfl, rfl⟩ := h
  exact ⟨⟨hslot, hderived⟩, hsigned, gatewayAddress, g, ⟨hgslot, hgderived⟩, hauthority⟩

/-! ## Deliveries -/

theorem takeRequest_ok {g : Gateway} {sender : Key}
    (h : takeRequest scheme inv store = .ok (g, sender)) :
    inv.signs sender = true ∧
      ∃ gatewayAddress, inv.address? 0 = some gatewayAddress ∧
        Opened scheme store (.gateway g.chain) gatewayAddress (.gateway g) := by
  simp only [takeRequest, except_bind_eq_ok, Prod.exists, takeRecord_eq_ok, takeSigner_eq_ok,
    checkDerived_eq_ok, except_pure_eq_ok, exists_unit_and, Prod.mk.injEq] at h
  obtain ⟨gatewayAddress, g', ⟨hnamed, hslot⟩, sender', ⟨-, hsigned⟩, hderived, rfl, rfl⟩ := h
  exact ⟨hsigned, gatewayAddress, hnamed, hslot, hderived⟩

/-- The marker has its own address, and the counter is opened as the one of the source chain. -/
structure CommitAccounts.Checked (scheme : AddressScheme) (inv : Invocation) (store : Store)
    (key : MarkerKey) (a : CommitAccounts) : Prop where
  gateway : ∃ gatewayAddress,
    Opened scheme store (.gateway a.gateway.chain) gatewayAddress (.gateway a.gateway)
  marker : scheme.locate (.marker key) = some (a.markerAddress, a.markerBump)
  counter : Opened scheme store (.counter key.source) a.counterAddress (.counter a.counter)
  payer : inv.address? 3 = some a.relayer
  signed : inv.signs a.relayer = true

theorem takeCommit_ok {key : MarkerKey} {a : CommitAccounts}
    (h : takeCommit scheme inv store key = .ok a) : a.Checked scheme inv store key := by
  simp only [takeCommit, except_bind_eq_ok, Prod.exists, take_eq_ok, takeRecord_eq_ok,
    takeSigner_eq_ok, takeProgram_eq_ok, checkDerived_eq_ok, checkLocated_eq_ok, checkWritable_eq_ok,
    except_pure_eq_ok, exists_unit_and] at h
  obtain ⟨gatewayAddress, g, ⟨-, hslot⟩, markerAddress, -, counterAddress, counter, ⟨-, hcslot⟩, relayer,
    ⟨hpayer, hsigned⟩, system, -, hderived, bump, hlocated, -, hcderived, -, -, rfl⟩ := h
  exact ⟨⟨gatewayAddress, hslot, hderived⟩, hlocated, ⟨hcslot, hcderived⟩, hpayer, hsigned⟩

/-- The marker and what may be the Project registry have their own addresses, the other registries are
opened as those of the source chain, and the instructions are those that the host shows. -/
structure SettleAccounts.Checked (scheme : AddressScheme) (inv : Invocation) (store : Store)
    (key : MarkerKey) (a : SettleAccounts) : Prop where
  gateway : ∃ gatewayAddress,
    Opened scheme store (.gateway a.gateway.chain) gatewayAddress (.gateway a.gateway)
  marker : ∃ bump, scheme.locate (.marker key) = some (a.markerAddress, bump)
  via : ∃ viaAddress, Opened scheme store (.registry .via key.source) viaAddress (.registry a.via)
  chain : ∃ chainAddress,
    Opened scheme store (.registry .chain key.source) chainAddress (.registry a.chain)
  project : ∃ bump, scheme.locate (.registry .project key.source) = some (a.projectAddress, bump)
  receiver : inv.address? 5 = some a.relayer
  signed : inv.signs a.relayer = true
  instructions : a.instructions = .instructions

theorem takeSettle_ok {key : MarkerKey} {a : SettleAccounts}
    (h : takeSettle scheme inv store key = .ok a) : a.Checked scheme inv store key := by
  simp only [takeSettle, except_bind_eq_ok, Prod.exists, take_eq_ok, takeRecord_eq_ok,
    takeSigner_eq_ok, checkDerived_eq_ok, checkLocated_eq_ok, checkWritable_eq_ok, ensure_eq_ok,
    except_pure_eq_ok, exists_unit_and] at h
  obtain ⟨gatewayAddress, g, ⟨-, hslot⟩, markerAddress, -, viaAddress, via, ⟨-, hvslot⟩, chainAddress,
    chain, ⟨-, hcslot⟩, projectAddress, -, relayer, ⟨hreceiver, hsigned⟩, instructions, -, hderived, bump,
    hmarker, -, hvderived, hcderived, pbump, hproject, -, hinstructions, rfl⟩ := h
  exact ⟨⟨gatewayAddress, hslot, hderived⟩, ⟨bump, hmarker⟩, ⟨viaAddress, hvslot, hvderived⟩,
    ⟨chainAddress, hcslot, hcderived⟩, ⟨pbump, hproject⟩, hreceiver, hsigned, hinstructions⟩

end Program

end RelayGate
