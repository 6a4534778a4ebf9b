import RelayGate.Proofs.StoreBook

/-!
# What calls do to records

Where addresses separate records, a store is a map from what records are about to records. Here is, once
for each call, what it does to this map and on whose behalf (`Effect`); whatever is to be shown about
records along runs follows from these eight cases. A transaction either has the effect of its call or
none at all (`Transaction.effect_apply`), and a record other than a marker goes on as the same record,
whatever the effect (`Effect.continues`).
-/

namespace RelayGate

variable {scheme : AddressScheme} {inv : Invocation} {store : Store} {address : Key} {bump : UInt8}
  {key : RecordKey} {r : StoredRecord} {call : Call} {out : Program.Outcome}

/-! ## Who may replace the gate -/

/-- The loader keeps a key as the one that may replace the gate's program: the account of the program
says where this is kept, and the account there says which key it is. -/
def Store.Replacer (store : Store) (key : Key) : Prop :=
  ∃ dataAddress slot, (store.account .gate).owner = .loader ∧
    LoaderState.decode (store.account .gate).data = some (.program dataAddress) ∧
    (store.account dataAddress).owner = .loader ∧
    LoaderState.decode (store.account dataAddress).data = some (.programData slot (some key))

theorem Access.programDataAddress_eq_some {program dataAddress : Key} :
    programDataAddress store program = .ok (some dataAddress) ↔
      (store.account program).owner = .loader ∧
        LoaderState.decode (store.account program).data = some (.program dataAddress) := by
  unfold programDataAddress
  dsimp only
  split
  · next howner =>
    split
    · next key hstate => simp [howner, hstate]
    · next hother =>
      constructor
      · intro h
        cases h
      · rintro ⟨-, hstate⟩
        exact absurd hstate (hother dataAddress)
  · next howner => simp [howner]

/-- Making the account of the gateway does not touch the account of the gate's program. -/
theorem Program.GatewayCreation.Checked.replacer_authority {chain : UInt64} {c : GatewayCreation}
    (hprogram : inv.program = .gate) (h : c.Checked scheme inv store chain) :
    store.Replacer c.authority := by
  obtain ⟨dataAddress, slot, hexpected, howner, hdata⟩ := h.replacer
  obtain ⟨hgate, hstate⟩ := Access.programDataAddress_eq_some.1 hexpected
  have hother : Key.gate ≠ c.address := by
    intro hsame
    have hslots := (RecordAccount.slots_createDeclared hprogram h.made).2
    have hslot : c.store.slots c.address = .unreadable := by rw [hslots, Function.update_self]
    have hown : (c.store.account c.address).owner = .gate :=
      Account.isOwn_slot.1 (by rw [← Store.slots, hslot]; rfl)
    rw [← hsame, hgate] at hown
    exact absurd hown (by decide)
  obtain ⟨lamports, hsame⟩ := RecordAccount.changesOnly_createDeclared h.made .gate hother
  rw [hsame] at hgate hstate
  exact ⟨dataAddress, slot, hgate, hstate, howner, hdata⟩

/-- The account that shows the instructions is not the loader's. -/
theorem Store.Replacer.of_expose {t : Transaction} {key : Key} (h : (t.expose store).Replacer key) :
    (t.await store).Replacer key := by
  obtain ⟨dataAddress, slot, hgate, hstate, howner, hdata⟩ := h
  have hdataAddress : dataAddress ≠ .instructions := by
    rintro rfl
    have hother : Key.sysvar ≠ Key.loader := by decide
    rw [Transaction.expose, account_put_self] at howner
    exact hother howner
  have hgateAddress : Key.gate ≠ .instructions := by decide
  rw [Transaction.expose, account_put_of_ne _ hgateAddress] at hgate hstate
  rw [Transaction.expose, account_put_of_ne _ hdataAddress] at howner hdata
  exact ⟨dataAddress, slot, hgate, hstate, howner, hdata⟩

/-! ## Accounts that are named for records -/

/-- A call is given the account of a record at a place. -/
def Invocation.Names (inv : Invocation) (scheme : AddressScheme) (place : Nat) (key : RecordKey) : Prop :=
  ∃ address bump, inv.address? place = some address ∧ scheme.locate key = some (address, bump)

/-- One account is that of one record. -/
theorem Invocation.Names.key_eq {place : Nat} {key' : RecordKey} (hs : scheme.Separates)
    (h : inv.Names scheme place key) (h' : inv.Names scheme place key') : key' = key := by
  obtain ⟨address, bump, hplace, hlocate⟩ := h
  obtain ⟨address', bump', hplace', hlocate'⟩ := h'
  obtain rfl := Option.some.inj (hplace.symm.trans hplace')
  exact hs.locate_inj hlocate hlocate'

/-- A record that is found for a key is about it, and has the bump that is found with its address. -/
theorem Ordered.found (hs : scheme.Separates) (ho : Ordered scheme store.slots)
    (h : recordOf scheme store.slots key = some r) :
    r.key = key ∧ ∃ address, scheme.locate key = some (address, r.bump) ∧
      store.slots address = .holds r := by
  obtain ⟨⟨address, bump⟩, hlocate, hrecord⟩ := Option.bind_eq_some_iff.1 h
  have hslot := Slot.record?_eq_some.1 hrecord
  have hplaced := ho.locate_key hslot
  have hkey : r.key = key := hs.locate_inj hlocate hplaced
  rw [hkey] at hplaced
  exact ⟨hkey, address, hplaced, hslot⟩

/-! ## Effects -/

/-- What a call that succeeds does to the records of a store, and what let it do so. -/
inductive Effect (scheme : AddressScheme) (inv : Invocation) (store : Store)
    (records : RecordKey → Option StoredRecord) : Call → (RecordKey → Option StoredRecord) → Prop
  /-- A gateway is made, where there is none, for the key that may replace the gate's program. -/
  | createGateway {chain : UInt64} {authority : Key} {bump : UInt8} (hchain : chain ≠ 0)
      (hnew : records (.gateway chain) = none) (hsigned : inv.signs authority = true)
      (hreplacer : store.Replacer authority) :
    Effect scheme inv store records (.createGateway chain)
      (Function.update records (.gateway chain)
        (some (.gateway { authority, chain, enabled := true, bump })))
  /-- A gateway is switched by its authority. -/
  | switchGateway {enabled : Bool} {g : Gateway} (hfound : records (.gateway g.chain) = some (.gateway g))
      (hnamed : inv.Names scheme 0 (.gateway g.chain)) (hsigned : inv.signs g.authority = true) :
    Effect scheme inv store records (.switchGateway enabled)
      (Function.update records (.gateway g.chain) (some (.gateway { g with enabled })))
  /-- A counter is made, where there is none, by the authority of a gateway that is open. -/
  | createCounter {source : UInt64} {bump : UInt8} {g : Gateway} (hsource : source ≠ 0)
      (hnew : records (.counter source) = none) (hfound : records (.gateway g.chain) = some (.gateway g))
      (hnamed : inv.Names scheme 2 (.gateway g.chain)) (henabled : g.enabled = true)
      (hsigned : inv.signs g.authority = true) :
    Effect scheme inv store records (.createCounter source)
      (Function.update records (.counter source)
        (some (.counter { chain := source, highest := 0, bump })))
  /-- A registry is made, where there is none, by the authority of a gateway. -/
  | createRegistry {layer : Layer} {chain : UInt64} {signers : List Key} {threshold bump : UInt8}
      {g : Gateway} {r : Registry} (hnew : records (.registry layer chain) = none)
      (hfound : records (.gateway g.chain) = some (.gateway g)) (hsigned : inv.signs g.authority = true)
      (hr : Registry.create layer chain g.authority signers threshold bump = .ok r) :
    Effect scheme inv store records (.createRegistry layer chain signers threshold)
      (Function.update records (.registry layer chain) (some (.registry r)))
  /-- A registry is changed by its authority. -/
  | changeRegistry {layer : Layer} {chain : UInt64} {change : Registry.Change} {r r' : Registry}
      (hfound : records (.registry layer chain) = some (.registry r))
      (hsigned : inv.signs r.authority = true) (hchange : r.apply change = .ok r') :
    Effect scheme inv store records (.changeRegistry layer chain change)
      (Function.update records (.registry layer chain) (some (.registry r')))
  /-- A request goes through a gateway that is open, and leaves the records alone. -/
  | request {txId : TxId} {recipient : Bytes} {destination : UInt64} {data : Bytes}
      {confirmations : UInt16} {g : Gateway} (hfound : records (.gateway g.chain) = some (.gateway g))
      (hnamed : inv.Names scheme 0 (.gateway g.chain)) (henabled : g.enabled = true) :
    Effect scheme inv store records (.request txId recipient destination data confirmations) records
  /-- A commit through the gateway of the destination, which is open, makes the marker of its message and
  moves the counter of the source chain on. -/
  | commit {m : Message} {signatures : List Signature} {g : Gateway} {c : Counter} {bump : UInt8}
      (hfound : records (.gateway m.destination) = some (.gateway g)) (henabled : g.enabled = true)
      (habsent : records (.marker m.key) = none)
      (hcounter : records (.counter m.source) = some (.counter c)) (hfresh : c.highest < m.txId) :
    Effect scheme inv store records (.commit m signatures)
      (Function.update
        (Function.update records (.marker m.key) (some (.marker (Delivery.markerOf m bump))))
        (.counter m.source) (some (.counter { c with highest := m.txId })))
  /-- A settlement through the gateway of the destination, which is open, removes the marker of its
  message. -/
  | settle {m : Message} {signatures : List Signature} {g : Gateway} {marker : Marker}
      (hfound : records (.gateway m.destination) = some (.gateway g)) (henabled : g.enabled = true)
      (hpresent : records (.marker m.key) = some (.marker marker)) :
    Effect scheme inv store records (.settle m signatures)
      (Function.update records (.marker m.key) none)

variable {records records' : RecordKey → Option StoredRecord} {t : Transaction}

/-- Showing the instructions does not change who may replace the gate's program. -/
theorem Effect.of_expose (h : Effect scheme inv (t.expose store) records call records') :
    Effect scheme inv (t.await store) records call records' := by
  cases h with
  | createGateway hchain hnew hsigned hreplacer =>
    exact .createGateway hchain hnew hsigned hreplacer.of_expose
  | switchGateway hfound hnamed hsigned => exact .switchGateway hfound hnamed hsigned
  | createCounter hsource hnew hfound hnamed henabled hsigned =>
    exact .createCounter hsource hnew hfound hnamed henabled hsigned
  | createRegistry hnew hfound hsigned hr => exact .createRegistry hnew hfound hsigned hr
  | changeRegistry hfound hsigned hchange => exact .changeRegistry hfound hsigned hchange
  | request hfound hnamed henabled => exact .request hfound hnamed henabled
  | commit hfound henabled habsent hcounter hfresh =>
    exact .commit hfound henabled habsent hcounter hfresh
  | settle hfound henabled hpresent => exact .settle hfound henabled hpresent

namespace Program

/-- An opened gateway is found for its chain, and its account is the one that is found there. -/
theorem found_of_opened {g : Gateway} (ho : Ordered scheme store.slots)
    (h : Opened scheme store (.gateway g.chain) address (.gateway g)) :
    recordOf scheme store.slots (.gateway g.chain) = some (.gateway g) ∧
      scheme.locate (.gateway g.chain) = some (address, g.bump) :=
  ⟨h.recordOf_eq ho rfl, ho.locate_key h.slot⟩

/-- A call that succeeds where records are in order has its effect. -/
theorem effect_run (hs : scheme.Separates) (hprogram : inv.program = .gate)
    (ho : Ordered scheme store.slots) (hrun : (run scheme inv store call).outcome = .ok out) :
    Effect scheme inv store (recordOf scheme store.slots) call (recordOf scheme out.store.slots) := by
  -- nothing is found where an account is unclaimed
  have hnone : ∀ {key : RecordKey} {address : Key} {bump : UInt8},
      scheme.locate key = some (address, bump) → store.slots address = .unclaimed →
        recordOf scheme store.slots key = none := by
    intro key address bump hlocate hunclaimed
    rw [recordOf_eq hlocate, hunclaimed]
    rfl
  cases call with
  | createGateway chain =>
    obtain ⟨c, hc, hchain, hunclaimed, hslots, -⟩ := createGateway_ok hprogram hrun
    rw [hslots, recordOf_update hs hc.located]
    exact .createGateway hchain (hnone hc.located hunclaimed) hc.signed (hc.replacer_authority hprogram)
  | switchGateway enabled =>
    obtain ⟨address, g, hopened, ⟨hplace, hsigned⟩, hslots, -⟩ := switchGateway_ok hrun
    obtain ⟨hfound, hlocate⟩ := found_of_opened ho hopened
    rw [hslots, recordOf_update hs hlocate]
    exact .switchGateway hfound ⟨address, g.bump, hplace, hlocate⟩ hsigned
  | createCounter source =>
    obtain ⟨c, hc, hsource, hunclaimed, hslots, -⟩ := createCounter_ok hprogram hrun
    obtain ⟨g, hopened, hauthority, henabled⟩ := hc.gateway
    obtain ⟨hfound, hlocate⟩ := found_of_opened ho hopened
    rw [hslots, recordOf_update hs hc.located]
    refine .createCounter hsource (hnone hc.located hunclaimed) hfound ⟨_, g.bump, hc.named, hlocate⟩
      henabled ?_
    rw [hauthority]
    exact hc.signed
  | createRegistry layer chain signers threshold =>
    obtain ⟨c, r, hc, hr, hunclaimed, hslots, -⟩ := createRegistry_ok hprogram hrun
    obtain ⟨gatewayAddress, g, hopened, hauthority⟩ := hc.gateway
    obtain ⟨hfound, -⟩ := found_of_opened ho hopened
    rw [hslots, recordOf_update hs hc.located]
    rw [← hauthority] at hr
    refine .createRegistry (hnone hc.located hunclaimed) hfound ?_ hr
    rw [hauthority]
    exact hc.signed
  | changeRegistry layer chain change =>
    obtain ⟨address, r, r', hopened, hsigned, -, hchange, hslots, -⟩ := changeRegistry_ok hrun
    have hkey := hopened.key_eq hs ho
    have hlocate := ho.locate_key hopened.slot
    rw [hkey] at hlocate
    rw [hslots, recordOf_update hs hlocate]
    exact .changeRegistry (hopened.recordOf_eq ho hkey) hsigned hchange
  | request txId recipient destination data confirmations =>
    obtain ⟨gatewayAddress, g, sender, hopened, ⟨hplace, -⟩, henabled, -, hstore, -⟩ := request_ok hrun
    obtain ⟨hfound, hlocate⟩ := found_of_opened ho hopened
    rw [hstore]
    exact .request hfound ⟨gatewayAddress, g.bump, hplace, hlocate⟩ henabled
  | commit m signatures =>
    obtain ⟨a, ha, hc, hunclaimed, hslots, -⟩ := commit_ok hprogram hrun
    obtain ⟨gatewayAddress, hopened⟩ := ha.gateway
    obtain ⟨hfound, -⟩ := found_of_opened ho hopened
    rw [← hc.destination] at hfound
    have hkey := ha.counter.key_eq hs ho
    have hlocate := ho.locate_key ha.counter.slot
    rw [hkey] at hlocate
    rw [hslots, recordOf_update hs hlocate, recordOf_update hs ha.marker]
    exact .commit hfound hc.enabled (hnone ha.marker hunclaimed) (ha.counter.recordOf_eq ho hkey) hc.fresh
  | settle m signatures =>
    obtain ⟨a, layers, preceding, marker, tally, ha, -, hsettleable, hslot, hslots, -⟩ :=
      settle_ok hprogram hrun
    obtain ⟨gatewayAddress, hopened⟩ := ha.gateway
    obtain ⟨hfound, -⟩ := found_of_opened ho hopened
    rw [← hsettleable.destination] at hfound
    obtain ⟨bump, hlocate⟩ := ha.marker
    have hpresent : recordOf scheme store.slots (.marker m.key) = some (.marker marker) := by
      rw [recordOf_eq hlocate, hslot]
      rfl
    rw [hslots, recordOf_update hs hlocate]
    exact .settle hfound hsettleable.enabled hpresent

end Program

/-! ## Records that go on -/

namespace StoredRecord

/-- A record goes on as another one: it is about the same, belongs to the same authority and has the
same bump, and a counter is not taken back. -/
def Continues : StoredRecord → StoredRecord → Prop
  | gateway g, gateway g' => g'.authority = g.authority ∧ g'.chain = g.chain ∧ g'.bump = g.bump
  | counter c, counter c' => c'.chain = c.chain ∧ c'.bump = c.bump ∧ c.highest ≤ c'.highest
  | marker m, marker m' => m' = m
  | registry r, registry r' => r.SameOffice r'
  | _, _ => False

variable {x y z : StoredRecord}

theorem Continues.refl (x : StoredRecord) : x.Continues x := by
  cases x with
  | gateway g => exact ⟨rfl, rfl, rfl⟩
  | counter c => exact ⟨rfl, rfl, BitVec.le_refl _⟩
  | marker m => exact rfl
  | registry r => exact Registry.SameOffice.refl r

theorem continues_gateway {g : Gateway} (h : (gateway g).Continues x) :
    ∃ g', x = gateway g' ∧ g'.authority = g.authority ∧ g'.chain = g.chain ∧ g'.bump = g.bump := by
  cases x with
  | gateway g' => exact ⟨g', rfl, h⟩
  | counter c => exact h.elim
  | marker m => exact h.elim
  | registry r => exact h.elim

theorem continues_counter {c : Counter} (h : (counter c).Continues x) :
    ∃ c', x = counter c' ∧ c'.chain = c.chain ∧ c'.bump = c.bump ∧ c.highest ≤ c'.highest := by
  cases x with
  | gateway g => exact h.elim
  | counter c' => exact ⟨c', rfl, h⟩
  | marker m => exact h.elim
  | registry r => exact h.elim

theorem continues_registry {r : Registry} (h : (registry r).Continues x) :
    ∃ r', x = registry r' ∧ r.SameOffice r' := by
  cases x with
  | gateway g => exact h.elim
  | counter c => exact h.elim
  | marker m => exact h.elim
  | registry r' => exact ⟨r', rfl, h⟩

theorem Continues.trans (h : x.Continues y) (h' : y.Continues z) : x.Continues z := by
  cases x with
  | gateway g =>
    obtain ⟨g', rfl, hauthority, hchain, hbump⟩ := continues_gateway h
    obtain ⟨g'', rfl, hauthority', hchain', hbump'⟩ := continues_gateway h'
    exact ⟨hauthority'.trans hauthority, hchain'.trans hchain, hbump'.trans hbump⟩
  | counter c =>
    obtain ⟨c', rfl, hchain, hbump, hhighest⟩ := continues_counter h
    obtain ⟨c'', rfl, hchain', hbump', hhighest'⟩ := continues_counter h'
    exact ⟨hchain'.trans hchain, hbump'.trans hbump, BitVec.le_trans hhighest hhighest'⟩
  | marker m =>
    cases y with
    | marker m' =>
      obtain rfl : m' = m := h
      exact h'
    | gateway g => exact h.elim
    | counter c => exact h.elim
    | registry r => exact h.elim
  | registry r =>
    obtain ⟨r', rfl, hsame⟩ := continues_registry h
    obtain ⟨r'', rfl, hsame'⟩ := continues_registry h'
    exact hsame.trans hsame'

/-- Storing a record that continues the one in its place, if any, lets every record go on. -/
theorem continues_update {key' : RecordKey} (hfound : records key = some x)
    (h : ∀ old, records key' = some old → old.Continues y) :
    ∃ x', Function.update records key' (some y) key = some x' ∧ x.Continues x' := by
  by_cases hkey : key = key'
  · subst hkey
    exact ⟨y, Function.update_self _ _ _, h x hfound⟩
  · exact ⟨x, by rw [Function.update_of_ne hkey, hfound], .refl x⟩

end StoredRecord

/-- No call ends a record other than a marker, or makes another record of it. -/
theorem Effect.continues (h : Effect scheme inv store records call records')
    (hkey : ∀ k, key ≠ .marker k) (hfound : records key = some r) :
    ∃ r', records' key = some r' ∧ r.Continues r' := by
  have hfresh : ∀ {key' : RecordKey} {new : StoredRecord}, records key' = none →
      ∀ old, records key' = some old → old.Continues new := by
    intro key' new hnew old hold
    rw [hnew] at hold
    cases hold
  cases h with
  | createGateway hchain hnew hsigned hreplacer => exact StoredRecord.continues_update hfound (hfresh hnew)
  | switchGateway hgateway hnamed hsigned =>
    refine StoredRecord.continues_update hfound fun old hold => ?_
    obtain rfl := Option.some.inj (hold.symm.trans hgateway)
    exact ⟨rfl, rfl, rfl⟩
  | createCounter hsource hnew hgateway hnamed henabled hsigned =>
    exact StoredRecord.continues_update hfound (hfresh hnew)
  | createRegistry hnew hgateway hsigned hr => exact StoredRecord.continues_update hfound (hfresh hnew)
  | changeRegistry hregistry hsigned hchange =>
    refine StoredRecord.continues_update hfound fun old hold => ?_
    obtain rfl := Option.some.inj (hold.symm.trans hregistry)
    exact Registry.sameOffice_of_apply hchange
  | request hgateway hnamed henabled => exact ⟨r, hfound, .refl r⟩
  | commit hgateway henabled habsent hcounter hnew =>
    rw [← Function.update_of_ne (hkey _) (some (.marker _)) records] at hfound
    refine StoredRecord.continues_update hfound fun old hold => ?_
    rw [Function.update_of_ne (by simp)] at hold
    obtain rfl := Option.some.inj (hold.symm.trans hcounter)
    exact ⟨rfl, rfl, BitVec.le_of_lt hnew⟩
  | settle hgateway henabled hpresent =>
    exact ⟨r, by rw [Function.update_of_ne (hkey _), hfound], .refl r⟩

/-! ## Transactions -/

namespace Transaction

/-- A transaction has the effect of the call that it completes. When it completes none, the records
stay. -/
theorem effect_apply (hs : scheme.Separates) (ho : Ordered scheme store.slots) (t : Transaction) :
    (∃ call events, t.completion? scheme store = some (call, events) ∧
        Effect scheme t.call (t.await store) (recordOf scheme store.slots) call
          (recordOf scheme (t.apply scheme store).slots)) ∨
      t.completion? scheme store = none ∧
        recordOf scheme (t.apply scheme store).slots = recordOf scheme store.slots := by
  have hexposed := recordOf_expose ho t
  rcases t.completion?_cases scheme store with
    ⟨call, out, hprogram, -, hrun, hcompletion, happly⟩ | ⟨hcompletion, happly⟩
  · have heffect := Program.effect_run hs hprogram (t.ordered_expose ho) hrun
    rw [hexposed, ← happly] at heffect
    exact Or.inl ⟨call, out.events, hcompletion, heffect.of_expose⟩
  · rw [happly]
    exact Or.inr ⟨hcompletion, hexposed⟩

/-- A transaction whose call succeeds has the effect of this call. -/
theorem effect_of_ok (hs : scheme.Separates) (ho : Ordered scheme store.slots)
    (hcall : Call.ofData? t.call.data = some call) (hout : (t.execute scheme store).outcome = .ok out) :
    Effect scheme t.call (t.await store) (recordOf scheme store.slots) call
      (recordOf scheme (t.apply scheme store).slots) := by
  have hcompletion : t.completion? scheme store = some (call, out.events) := by
    rw [completion?, hout, hcall]
  rcases t.effect_apply hs ho with ⟨call', events, hcompletion', heffect⟩ | ⟨hnone, -⟩
  · obtain ⟨rfl, -⟩ := Prod.mk.inj (Option.some.inj (hcompletion.symm.trans hcompletion'))
    exact heffect
  · cases hcompletion.symm.trans hnone

end Transaction

end RelayGate
