import Mathlib.Data.List.Induction
import RelayGate.Proofs.LedgerRuns
import RelayGate.Proofs.RecordEffects

/-!
# The ledger in a store

What a store holds of pending markers and counters is a ledger (`Store.ledger`): the accounts of the gate
that hold markers and counters, listed by what these are about. Where addresses separate records no two
accounts hold a record of the same, so the tables have the content that is found by address
(`get?_markers`, `get?_counters`), and a phase of a delivery changes them like the ledger's own.
-/

namespace RelayGate

/-! ## Tables -/

theorem Table.insert_of_get? {κ α : Type} [Ranked κ] [DecidableEq κ] {t : Table κ α} {k : κ} {a : α}
    (h : t.get? k = some a) : t.insert k a = t := by
  refine Table.ext fun k' => ?_
  rw [get?_insert_eq_update, ← h, Function.update_eq_self]

/-- In a table of entries that agree wherever they have the same key, each entry is found. -/
theorem Table.get?_ofList {κ α : Type} [Ranked κ] {entries : List (κ × α)} {k : κ} {a : α}
    (h : ∀ k a b, (k, a) ∈ entries → (k, b) ∈ entries → a = b) :
    (ofList entries).get? k = some a ↔ (k, a) ∈ entries := by
  induction entries using List.reverseRecOn with
  | nil =>
    constructor
    · intro hfound
      cases (hfound : none = some a)
    · intro hmem
      cases hmem
  | append_singleton init e ih =>
    have hinit : (ofList init).get? k = some a ↔ (k, a) ∈ init :=
      ih fun k a b ha hb => h k a b (List.mem_append_left _ ha) (List.mem_append_left _ hb)
    have hlast : (k, a) ∈ [e] ↔ k = e.1 ∧ a = e.2 := by
      rw [List.mem_singleton, Prod.ext_iff]
    rw [ofList, List.foldl_append, List.foldl_cons, List.foldl_nil, ← ofList, List.mem_append, hlast]
    by_cases hk : k = e.1
    · subst hk
      rw [get?_insert_self, Option.some.injEq]
      constructor
      · rintro rfl
        exact .inr ⟨rfl, rfl⟩
      · rintro (hmem | ⟨-, rfl⟩)
        · exact h e.1 _ _ (by simp) (List.mem_append_left _ hmem)
        · rfl
    · rw [get?_insert_of_ne _ hk, hinit]
      simp [hk]

variable {scheme : AddressScheme} {store store' : Store} {markerKey : MarkerKey} {source : UInt64}
  {r r' : StoredRecord} {address : Key} {m : Marker} {c : Counter} {gateway : Gateway} {layers : Layers}

/-! ## Markers and counters -/

/-- What a marker is stored under. -/
def Marker.key (m : Marker) : MarkerKey := { source := m.source, txId := m.txId }

namespace StoredRecord

/-- A marker, with its key. -/
def asMarker? : StoredRecord → Option (MarkerKey × Marker)
  | marker m => some (m.key, m)
  | _ => none

/-- A counter, with its source chain. -/
def asCounter? : StoredRecord → Option (UInt64 × Counter)
  | counter c => some (c.chain, c)
  | _ => none

theorem asMarker?_eq_some : r.asMarker? = some (markerKey, m) ↔ r = .marker m ∧ m.key = markerKey := by
  cases r with
  | marker m' =>
    simp only [asMarker?, Option.some.injEq, Prod.mk.injEq, marker.injEq]
    constructor
    · rintro ⟨hkey, rfl⟩
      exact ⟨rfl, hkey⟩
    · rintro ⟨rfl, hkey⟩
      exact ⟨hkey, rfl⟩
  | _ => simp [asMarker?]

theorem asCounter?_eq_some : r.asCounter? = some (source, c) ↔ r = .counter c ∧ c.chain = source := by
  cases r with
  | counter c' =>
    simp only [asCounter?, Option.some.injEq, Prod.mk.injEq, counter.injEq]
    constructor
    · rintro ⟨hchain, rfl⟩
      exact ⟨rfl, hchain⟩
    · rintro ⟨rfl, hchain⟩
      exact ⟨hchain, rfl⟩
  | _ => simp [asCounter?]

end StoredRecord

namespace Store

/-- The entries that the records of a store make in a table. -/
def tableOf {κ α : Type} [Ranked κ] (store : Store) (pick : StoredRecord → Option (κ × α)) : Table κ α :=
  Table.ofList (store.entries.filterMap fun e => e.2.slot.record?.bind pick)

/-- The markers that are pending in a store. -/
def markers (store : Store) : Table MarkerKey Marker := store.tableOf StoredRecord.asMarker?

/-- The counters in a store. -/
def counters (store : Store) : Table UInt64 Counter := store.tableOf StoredRecord.asCounter?

/-- An account that holds a record is listed. -/
theorem mem_records_iff : (∃ e ∈ store.entries, e.1 = address ∧ e.2.slot = .holds r) ↔
    store.slots address = .holds r := by
  constructor
  · rintro ⟨⟨address', a⟩, hmem, rfl, hslot⟩
    rw [slots, account, Table.mem_entries.1 hmem]
    exact hslot
  · intro hslot
    rw [slots, account] at hslot
    cases hget : store.get? address with
    | none =>
      rw [hget] at hslot
      cases hslot
    | some a =>
      rw [hget] at hslot
      exact ⟨(address, a), Table.mem_entries.2 hget, rfl, hslot⟩

/-- Records are found in a table of theirs when the key in the table tells what they are about. -/
theorem get?_tableOf {κ α : Type} [Ranked κ] {pick : StoredRecord → Option (κ × α)} {k : κ} {a : α}
    (ho : Ordered scheme store.slots)
    (hpick : ∀ r r' k a b, pick r = some (k, a) → pick r' = some (k, b) → r.key = r'.key) :
    (store.tableOf pick).get? k = some a ↔
      ∃ address r, store.slots address = .holds r ∧ pick r = some (k, a) := by
  have hmem : ∀ k a, (k, a) ∈ store.entries.filterMap (fun e => e.2.slot.record?.bind pick) ↔
      ∃ address r, store.slots address = .holds r ∧ pick r = some (k, a) := by
    intro k a
    simp only [List.mem_filterMap, Option.bind_eq_some_iff, Slot.record?_eq_some, ← mem_records_iff]
    constructor
    · rintro ⟨e, he, r, hslot, hr⟩
      exact ⟨e.1, r, ⟨e, he, rfl, hslot⟩, hr⟩
    · rintro ⟨-, r, ⟨e, he, -, hslot⟩, hr⟩
      exact ⟨e, he, r, hslot, hr⟩
  rw [tableOf, Table.get?_ofList, hmem]
  intro k a b ha hb
  obtain ⟨address, r, hslot, hr⟩ := (hmem k a).1 ha
  obtain ⟨address', r', hslot', hr'⟩ := (hmem k b).1 hb
  -- two records about the same are one record, at one address
  have hlocate := ho.locate_key hslot
  rw [hpick r r' k a b hr hr', ho.locate_key hslot', Option.some.injEq, Prod.mk.injEq] at hlocate
  obtain ⟨rfl, -⟩ := hlocate
  obtain rfl := Slot.holds.inj (hslot.symm.trans hslot')
  exact (Prod.mk.inj (Option.some.inj (hr.symm.trans hr'))).2

theorem recordOf_of_slot (ho : Ordered scheme store.slots) (hslot : store.slots address = .holds r) :
    recordOf scheme store.slots r.key = some r := by
  rw [recordOf_eq (ho.locate_key hslot), hslot]
  rfl

theorem get?_markers (hs : scheme.Separates) (ho : Ordered scheme store.slots) :
    store.markers.get? markerKey = some m ↔
      recordOf scheme store.slots (.marker markerKey) = some (.marker m) := by
  rw [markers, get?_tableOf ho]
  · simp only [StoredRecord.asMarker?_eq_some]
    constructor
    · rintro ⟨address, r, hslot, rfl, rfl⟩
      exact recordOf_of_slot ho hslot
    · intro hfound
      obtain ⟨hkey, address, -, hslot⟩ := ho.found hs hfound
      exact ⟨address, _, hslot, rfl, RecordKey.marker.inj hkey⟩
  · simp only [StoredRecord.asMarker?_eq_some]
    rintro r r' k m m' ⟨rfl, rfl⟩ ⟨rfl, hkey⟩
    exact congrArg RecordKey.marker hkey.symm

theorem get?_counters (hs : scheme.Separates) (ho : Ordered scheme store.slots) :
    store.counters.get? source = some c ↔
      recordOf scheme store.slots (.counter source) = some (.counter c) := by
  rw [counters, get?_tableOf ho]
  · simp only [StoredRecord.asCounter?_eq_some]
    constructor
    · rintro ⟨address, r, hslot, rfl, rfl⟩
      exact recordOf_of_slot ho hslot
    · intro hfound
      obtain ⟨hkey, address, -, hslot⟩ := ho.found hs hfound
      exact ⟨address, _, hslot, rfl, RecordKey.counter.inj hkey⟩
  · simp only [StoredRecord.asCounter?_eq_some]
    rintro r r' k c c' ⟨rfl, rfl⟩ ⟨rfl, hchain⟩
    exact congrArg RecordKey.counter hchain.symm

/-! ## The ledger -/

/-- What a store holds of pending markers and counters, as a ledger that serves a gateway and consults
some layers. -/
def ledger (store : Store) (gateway : Gateway) (layers : Layers) : Ledger where
  gateway := gateway
  via := layers.via
  chain := layers.chain
  project := layers.project
  markers := store.markers
  counters := store.counters

@[simp] theorem layers_ledger (store : Store) (gateway : Gateway) (layers : Layers) :
    (store.ledger gateway layers).layers = layers := rfl

/-- The ledger in a store is a matter of its records. -/
theorem ledger_congr (hs : scheme.Separates) (ho : Ordered scheme store.slots)
    (ho' : Ordered scheme store'.slots)
    (h : recordOf scheme store'.slots = recordOf scheme store.slots) :
    store'.ledger gateway layers = store.ledger gateway layers := by
  have hmarkers : store'.markers = store.markers := by
    refine Table.ext fun k => Option.ext fun m => ?_
    rw [get?_markers hs ho', get?_markers hs ho, h]
  have hcounters : store'.counters = store.counters := by
    refine Table.ext fun k => Option.ext fun c => ?_
    rw [get?_counters hs ho', get?_counters hs ho, h]
  rw [ledger, ledger, hmarkers, hcounters]

/-- The tables after a commit. -/
theorem tables_of_commit (hs : scheme.Separates) (ho : Ordered scheme store.slots)
    (ho' : Ordered scheme store'.slots)
    (h : recordOf scheme store'.slots = Function.update
      (Function.update (recordOf scheme store.slots) (.marker markerKey) (some (.marker m)))
      (.counter source) (some (.counter c))) :
    store'.markers = store.markers.insert markerKey m ∧
      store'.counters = store.counters.insert source c := by
  constructor
  · refine Table.ext fun k => Option.ext fun m' => ?_
    rw [get?_markers hs ho', h, Function.update_of_ne (by simp), Table.get?_insert_eq_update]
    by_cases hk : k = markerKey
    · simp [hk]
    · rw [Function.update_of_ne (by simpa using hk), Function.update_of_ne hk, get?_markers hs ho]
  · refine Table.ext fun s => Option.ext fun c' => ?_
    rw [get?_counters hs ho', h, Table.get?_insert_eq_update]
    by_cases hsource : s = source
    · simp [hsource]
    · rw [Function.update_of_ne (by simpa using hsource), Function.update_of_ne (by simp),
        Function.update_of_ne hsource, get?_counters hs ho]

/-- The tables after a settlement. -/
theorem tables_of_settle (hs : scheme.Separates) (ho : Ordered scheme store.slots)
    (ho' : Ordered scheme store'.slots)
    (h : recordOf scheme store'.slots =
      Function.update (recordOf scheme store.slots) (.marker markerKey) none) :
    store'.markers = store.markers.erase markerKey ∧ store'.counters = store.counters := by
  constructor
  · refine Table.ext fun k => Option.ext fun m' => ?_
    rw [get?_markers hs ho', h, Table.get?_erase_eq_update]
    by_cases hk : k = markerKey
    · simp [hk]
    · rw [Function.update_of_ne (by simpa using hk), Function.update_of_ne hk, get?_markers hs ho]
  · refine Table.ext fun s => Option.ext fun c' => ?_
    rw [get?_counters hs ho', h, Function.update_of_ne (by simp), get?_counters hs ho]

end Store

end RelayGate
