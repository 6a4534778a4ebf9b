import RelayGate.Proofs.RecordEffects
import RelayGate.Proofs.Settlement

/-!
# The invariant of stored records

Records of different kinds hang together: a registry belongs to the authority of a gateway, and a marker
is covered by the counter of its source chain. What a record demands of the other records is kept as
long as these go on (`StoredRecord.Sound.of_continues`), so each call only has to make sound what it
stores itself. With the places of the records, which `Ordered` tells, this says for every account of the
gate what it holds (`Store.accounts_in_order`).
-/

namespace RelayGate

variable {scheme : AddressScheme} {inv : Invocation} {store : Store} {address : Key} {key : RecordKey}
  {call : Call} {records records' : RecordKey → Option StoredRecord} {r new : StoredRecord}

namespace StoredRecord

/-- What a record demands of itself and of the other records: no gateway or counter is for chain zero, a
registry is well formed and its authority is that of some gateway, and the counter of a marker's source
chain has come at least as far as the marker. -/
def Sound (records : RecordKey → Option StoredRecord) : StoredRecord → Prop
  | gateway g => g.chain ≠ 0
  | counter c => c.chain ≠ 0
  | registry r => r.WellFormed ∧
    ∃ chain g, records (.gateway chain) = some (.gateway g) ∧ g.authority = r.authority
  | marker m => ∃ c, records (.counter m.source) = some (.counter c) ∧ m.txId ≤ c.highest

/-- A demand on other records is met as long as these go on. -/
theorem Sound.of_continues (h : r.Sound records)
    (hgo : ∀ key x, (∀ k, key ≠ .marker k) → records key = some x →
      ∃ x', records' key = some x' ∧ x.Continues x') : r.Sound records' := by
  cases r with
  | gateway g => exact h
  | counter c => exact h
  | marker m =>
    obtain ⟨c, hfound, hle⟩ := h
    obtain ⟨x, hfound', hcontinues⟩ := hgo _ _ (by simp) hfound
    obtain ⟨c', rfl, -, -, hhighest⟩ := continues_counter hcontinues
    exact ⟨c', hfound', BitVec.le_trans hle hhighest⟩
  | registry r =>
    obtain ⟨hwellFormed, chain, g, hfound, hauthority⟩ := h
    obtain ⟨x, hfound', hcontinues⟩ := hgo _ _ (by simp) hfound
    obtain ⟨g', rfl, hsame, -, -⟩ := continues_gateway hcontinues
    exact ⟨hwellFormed, chain, g', hfound', hsame.trans hauthority⟩

/-- Storing a sound record leaves all records sound. -/
theorem sound_update {key' : RecordKey} (hothers : ∀ key r, records key = some r → r.Sound records')
    (h : Function.update records key' (some new) key = some r) (hnew : new.Sound records') :
    r.Sound records' := by
  by_cases hkey : key = key'
  · subst hkey
    rw [Function.update_self] at h
    exact Option.some.inj h ▸ hnew
  · rw [Function.update_of_ne hkey] at h
    exact hothers key r h

end StoredRecord

/-- Every call leaves all records sound. -/
theorem Effect.sound (h : Effect scheme inv store records call records')
    (hsound : ∀ key r, records key = some r → r.Sound records) (hr : records' key = some r) :
    r.Sound records' := by
  have hgo : ∀ key x, (∀ k, key ≠ .marker k) → records key = some x →
      ∃ x', records' key = some x' ∧ x.Continues x' := fun _ _ => h.continues
  have hothers : ∀ key r, records key = some r → r.Sound records' :=
    fun key r hfound => (hsound key r hfound).of_continues hgo
  cases h with
  | createGateway hchain hnew hsigned hreplacer => exact StoredRecord.sound_update hothers hr hchain
  | switchGateway hgateway hnamed hsigned =>
    have hchain := hsound _ _ hgateway
    exact StoredRecord.sound_update hothers hr hchain
  | createCounter hsource hnew hgateway hnamed henabled hsigned =>
    exact StoredRecord.sound_update hothers hr hsource
  | createRegistry hnew hgateway hsigned hmade =>
    refine StoredRecord.sound_update hothers hr ⟨Registry.wellFormed_of_create hmade, ?_⟩
    obtain ⟨-, -, rfl⟩ := Registry.create_eq_ok.1 hmade
    obtain ⟨x, hfound, hcontinues⟩ := hgo _ _ (by simp) hgateway
    obtain ⟨g', rfl, hauthority, -, -⟩ := StoredRecord.continues_gateway hcontinues
    exact ⟨_, g', hfound, hauthority⟩
  | changeRegistry hregistry hsigned hchange =>
    obtain ⟨hwellFormed, chain, g, hfound, hauthority⟩ := hothers _ _ hregistry
    refine StoredRecord.sound_update hothers hr ⟨hwellFormed.of_apply hchange, chain, g, hfound, ?_⟩
    rw [(Registry.sameOffice_of_apply hchange).authority_eq, hauthority]
  | request hgateway hnamed henabled => exact hothers key r hr
  | @commit m signatures g c bump hgateway henabled habsent hcounter hfresh =>
    by_cases hkey : key = .counter m.source
    · subst hkey
      rw [Function.update_self] at hr
      obtain rfl := Option.some.inj hr
      exact hsound _ _ hcounter
    · rw [Function.update_of_ne hkey] at hr
      refine StoredRecord.sound_update hothers hr ⟨_, Function.update_self _ _ _, ?_⟩
      exact BitVec.le_refl _
  | @settle m signatures g marker hgateway henabled hpresent =>
    by_cases hkey : key = .marker m.key
    · subst hkey
      rw [Function.update_self] at hr
      cases hr
    · rw [Function.update_of_ne hkey] at hr
      exact hothers key r hr

namespace Store

/-- In every store that transactions lead to, all records that are found are sound. -/
theorem Reachable.sound (hs : scheme.Separates) (h : Reachable scheme store)
    (hr : recordOf scheme store.slots key = some r) : r.Sound (recordOf scheme store.slots) := by
  induction h generalizing key r with
  | start hunowned =>
    rw [recordOf_of_unowned hunowned] at hr
    cases hr
  | step t hreach ih =>
    rcases t.effect_apply hs hreach.ordered with ⟨call, events, -, heffect⟩ | ⟨-, hsame⟩
    · exact heffect.sound (fun _ _ => ih) hr
    · rw [hsame] at hr ⊢
      exact ih hr

/-- In every store that transactions lead to, each account of the gate is that of exactly one record: its
data are a record, which is about what the address is found for and states the bump that is found with
it, and which is sound among the other records. Addresses are to separate
records at every bump, not only at those that are found, as calls open records with the bumps that these
state. -/
theorem accounts_in_order (hs : scheme.Separates) (hreach : Reachable scheme store)
    (howner : (store.account address).owner = .gate) :
    ∃ r, StoredRecord.read? (store.account address).data = some r ∧
      scheme.locate r.key = some (address, r.bump) ∧
      (∀ key bump, scheme.locate key = some (address, bump) → key = r.key) ∧
      r.Sound (recordOf scheme store.slots) := by
  obtain ⟨r, hslot, hlocate⟩ := hreach.ordered.placed address (Account.isOwn_slot.2 howner)
  have hfound : recordOf scheme store.slots r.key = some r := by
    rw [recordOf_eq hlocate, hslot]
    rfl
  exact ⟨r, (Account.slot_eq_holds.1 hslot).2, hlocate, fun _ _ hother => hs.locate_inj hlocate hother,
    hreach.sound hs hfound⟩

theorem accounts_in_order_committed :
    exampleScheme.Separates ∧ Reachable exampleScheme exampleCommitted ∧
      (exampleCommitted.account (exampleAddress (.marker Ledger.exampleMessage.key))).owner = .gate ∧
      ∃ c, recordOf exampleScheme exampleCommitted.slots (.counter 43113) = some (.counter c) ∧
        Ledger.exampleMessage.txId ≤ c.highest := by
  have hreach : Reachable exampleScheme exampleCommitted :=
    (Reachable.start unowned_exampleStore).after _
  have howner : (exampleCommitted.account
      (exampleAddress (.marker Ledger.exampleMessage.key))).owner = .gate := by
    decide +kernel
  have hdata : StoredRecord.read? (exampleCommitted.account
      (exampleAddress (.marker Ledger.exampleMessage.key))).data =
        some (.marker (Delivery.markerOf Ledger.exampleMessage 253)) := by
    decide +kernel
  obtain ⟨r, hr, -, -, hsound⟩ := accounts_in_order exampleScheme_separates hreach howner
  obtain rfl := Option.some.inj (hdata.symm.trans hr)
  exact ⟨exampleScheme_separates, hreach, howner, hsound⟩

end Store

end RelayGate
