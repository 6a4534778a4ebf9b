import RelayGate.Proofs.Addresses
import RelayGate.Proofs.Book
import RelayGate.Proofs.StoreRuns

/-!
# The book of a store

Where addresses separate records, a store is a map from what records are about to records
(`recordOf`), each call changes this map at what it is about, and the markers and counters in it are
the book that the gate keeps. A run of transactions makes entries in this book, one for each commit
and each settlement that succeeds, and changes it in no other way (`Store.book_after`).
-/

namespace RelayGate

open Book (Entry Phase)

variable {scheme : AddressScheme} {inv : Invocation} {store : Store} {slots : Key → Slot}
  {address : Key} {bump : UInt8} {key : RecordKey} {r : StoredRecord} {x : Slot} {call : Call}
  {out : Program.Outcome} {records : RecordKey → Option StoredRecord} {markerKey : MarkerKey}

/-- An opened record is the one that is found for what it was opened as. -/
theorem Opened.key_eq (hs : scheme.Separates) (ho : Ordered scheme store.slots)
    (h : Opened scheme store key address r) : r.key = key :=
  (hs r.key address r.bump (ho.locate_key h.slot) key r.bump h.derived).symm

/-! ## Records by what they are about -/

/-- The record that is found for a key. -/
def recordOf (scheme : AddressScheme) (slots : Key → Slot) (key : RecordKey) : Option StoredRecord :=
  (scheme.locate key).bind fun found => (slots found.1).record?

theorem recordOf_eq (h : scheme.locate key = some (address, bump)) :
    recordOf scheme slots key = (slots address).record? := by
  rw [recordOf, h]
  rfl

/-- A record that was opened as what it says it is about is the one that is found for this. -/
theorem Opened.recordOf_eq (ho : Ordered scheme store.slots) (h : Opened scheme store key address r)
    (hkey : r.key = key) : recordOf scheme store.slots key = some r := by
  subst hkey
  rw [RelayGate.recordOf_eq (ho.locate_key h.slot), h.slot]
  rfl

theorem recordOf_of_unowned (h : store.Unowned) (key : RecordKey) :
    recordOf scheme store.slots key = none := by
  unfold recordOf
  cases scheme.locate key with
  | none => rfl
  | some found => exact Slot.record?_of_not_own (h.isOwn_slots found.1)

/-- Changing a slot changes the record of one key. -/
theorem recordOf_update (hs : scheme.Separates) (h : scheme.locate key = some (address, bump))
    (slots : Key → Slot) (x : Slot) :
    recordOf scheme (Function.update slots address x) =
      Function.update (recordOf scheme slots) key x.record? := by
  funext other
  by_cases hkey : other = key
  · subst hkey
    rw [Function.update_self, recordOf_eq h, Function.update_self]
  · rw [Function.update_of_ne hkey]
    unfold recordOf
    cases hother : scheme.locate other with
    | none => rfl
    | some found =>
      have hne : found.1 ≠ address := by
        rintro rfl
        exact hkey (hs.locate_inj h hother)
      simp [Function.update_of_ne hne]

/-- The records are the same as long as the gate owns the same. -/
theorem recordOf_sameOwned {after : Store} (h : store.SameOwned after) :
    recordOf scheme after.slots = recordOf scheme store.slots := by
  funext key
  unfold recordOf
  cases scheme.locate key with
  | none => rfl
  | some found =>
    rw [Option.bind_some, Option.bind_some]
    rcases h.slots_cases found.1 with hslot | ⟨hbefore, hafter⟩
    · rw [hslot]
    · rw [Slot.record?_of_not_own hbefore, Slot.record?_of_not_own hafter]

/-- Neither what others do nor showing the instructions hides a record or makes one. -/
theorem recordOf_expose (h : Ordered scheme store.slots) (t : Transaction) :
    recordOf scheme (t.expose store).slots = recordOf scheme store.slots :=
  recordOf_sameOwned (t.sameOwned_expose h)

/-! ## The book -/

namespace Book

/-- The book that the markers and counters among records are. -/
def ofRecords (records : RecordKey → Option StoredRecord) : Book where
  pending markerKey :=
    match records (.marker markerKey) with
    | some (.marker m) => some m
    | _ => none
  highest source :=
    match records (.counter source) with
    | some (.counter c) => c.highest
    | _ => 0

theorem ofRecords_update_gateway (records : RecordKey → Option StoredRecord) (chain : UInt64)
    (found : Option StoredRecord) :
    ofRecords (Function.update records (.gateway chain) found) = ofRecords records := by
  simp [ofRecords, Function.update_of_ne]

theorem ofRecords_update_registry (records : RecordKey → Option StoredRecord) (layer : Layer)
    (chain : UInt64) (found : Option StoredRecord) :
    ofRecords (Function.update records (.registry layer chain) found) = ofRecords records := by
  simp [ofRecords, Function.update_of_ne]

theorem ofRecords_update_marker (records : RecordKey → Option StoredRecord) (m : Marker) :
    ofRecords (Function.update records (.marker markerKey) (some (.marker m))) =
      { ofRecords records with
        pending := Function.update (ofRecords records).pending markerKey (some m) } := by
  simp only [ofRecords, mk.injEq]
  refine ⟨?_, by simp⟩
  funext k
  by_cases hk : k = markerKey
  · subst hk
    simp
  · simp [Function.update_of_ne, hk]

theorem ofRecords_update_none (records : RecordKey → Option StoredRecord) :
    ofRecords (Function.update records (.marker markerKey) none) =
      { ofRecords records with
        pending := Function.update (ofRecords records).pending markerKey none } := by
  simp only [ofRecords, mk.injEq]
  refine ⟨?_, by simp⟩
  funext k
  by_cases hk : k = markerKey
  · subst hk
    simp
  · simp [Function.update_of_ne, hk]

theorem ofRecords_update_counter (records : RecordKey → Option StoredRecord) {source : UInt64}
    (c : Counter) :
    ofRecords (Function.update records (.counter source) (some (.counter c))) =
      { ofRecords records with
        highest := Function.update (ofRecords records).highest source c.highest } := by
  simp only [ofRecords, mk.injEq]
  refine ⟨by simp, ?_⟩
  funext s
  by_cases hsource : s = source
  · subst hsource
    simp
  · simp [Function.update_of_ne, hsource]

end Book

/-- The book that a store keeps. -/
def Store.book (scheme : AddressScheme) (store : Store) : Book :=
  Book.ofRecords (recordOf scheme store.slots)

/-- The phase of a delivery that a call asks for. -/
def Call.phase? : Call → Option Phase
  | .commit m _ => some (.committed m.key)
  | .settle m _ => some (.settled m.key)
  | _ => none

/-- The phase of a delivery that an event announces. -/
def Event.phase? : Event → Option Phase
  | .committed txId source _ => some (.committed { source, txId })
  | .settled txId source _ _ => some (.settled { source, txId })
  | _ => none

namespace Program

/-- A new counter has seen as much as a missing one: nothing. -/
theorem book_createCounter {source : UInt64} (hs : scheme.Separates) (hprogram : inv.program = .gate)
    (h : (createCounter scheme inv store source).outcome = .ok out) :
    out.store.book scheme = store.book scheme := by
  obtain ⟨c, hc, -, hunclaimed, hslots, -⟩ := createCounter_ok hprogram h
  have hnone : recordOf scheme store.slots (.counter source) = none := by
    rw [recordOf_eq hc.located, hunclaimed]
    rfl
  have hhighest : (store.book scheme).highest source = 0 := by
    simp [Store.book, Book.ofRecords, hnone]
  rw [Store.book, hslots, recordOf_update hs hc.located]
  refine (Book.ofRecords_update_counter _ _).trans ?_
  change { store.book scheme with
    highest := Function.update (store.book scheme).highest source 0 } = store.book scheme
  rw [← hhighest, Function.update_eq_self]

theorem book_commit {m : Message} {signatures : List Signature} (hs : scheme.Separates)
    (hprogram : inv.program = .gate) (ho : Ordered scheme store.slots)
    (h : (commit scheme inv store m signatures).outcome = .ok out) :
    ∃ marker, (store.book scheme).enter? (.commit m.key marker) = some (out.store.book scheme) := by
  obtain ⟨a, ha, hc, hunclaimed, hslots, -⟩ := commit_ok hprogram h
  -- the counter was opened as that of the source chain, so it is found there
  have hchain : RecordKey.counter a.counter.chain = .counter m.source := ha.counter.key_eq hs ho
  have hcounter : scheme.locate (.counter m.source) = some (a.counterAddress, a.counter.bump) := by
    rw [← hchain]
    exact ho.locate_key ha.counter.slot
  have habsent : recordOf scheme store.slots (.marker m.key) = none := by
    rw [recordOf_eq ha.marker, hunclaimed]
    rfl
  have hcounted : recordOf scheme store.slots (.counter m.source) = some (.counter a.counter) := by
    rw [recordOf_eq hcounter, ha.counter.slot]
    rfl
  refine ⟨Delivery.markerOf m a.markerBump, Book.enter?_commit_eq_some.2 ⟨?_, ?_, ?_⟩⟩
  · simp [Store.book, Book.ofRecords, habsent]
  · simp only [Store.book, Book.ofRecords, Message.key, hcounted]
    exact hc.fresh
  · rw [Store.book, Store.book, hslots, recordOf_update hs hcounter, recordOf_update hs ha.marker]
    refine Eq.symm ((Book.ofRecords_update_counter _ _).trans ?_)
    rw [Slot.record?, Book.ofRecords_update_marker]
    rfl

theorem book_settle {m : Message} {signatures : List Signature} (hs : scheme.Separates)
    (hprogram : inv.program = .gate)
    (h : (settle scheme inv store m signatures).outcome = .ok out) :
    (store.book scheme).enter? (.settle m.key) = some (out.store.book scheme) := by
  obtain ⟨a, layers, preceding, marker, tally, ha, -, -, hslot, hslots, -⟩ := settle_ok hprogram h
  obtain ⟨bump, hmarker⟩ := ha.marker
  have hpresent : recordOf scheme store.slots (.marker m.key) = some (.marker marker) := by
    rw [recordOf_eq hmarker, hslot]
    rfl
  refine Book.enter?_settle_eq_some.2 ⟨?_, ?_⟩
  · simp [Store.book, Book.ofRecords, hpresent]
  · rw [Store.book, Store.book, hslots, recordOf_update hs hmarker]
    exact (Book.ofRecords_update_none _).symm

/-- A call that succeeds enters in the book the phase that it asks for, and changes it in no other
way. -/
theorem book_run (hs : scheme.Separates) (hprogram : inv.program = .gate)
    (ho : Ordered scheme store.slots) (hrun : (run scheme inv store call).outcome = .ok out) :
    ∃ entries, entries.map Entry.phase = call.phase?.toList ∧
      (store.book scheme).enterAll? entries = some (out.store.book scheme) := by
  cases call with
  | createGateway chain =>
    obtain ⟨c, hc, -, -, hslots, -⟩ := createGateway_ok hprogram hrun
    refine ⟨[], rfl, ?_⟩
    rw [Book.enterAll?_nil, Store.book, Store.book, hslots, recordOf_update hs hc.located,
      Book.ofRecords_update_gateway]
  | switchGateway enabled =>
    obtain ⟨address, g, hopened, -, hslots, -⟩ := switchGateway_ok hrun
    have hlocated : scheme.locate (.gateway g.chain) = some (address, g.bump) :=
      ho.locate_key hopened.slot
    refine ⟨[], rfl, ?_⟩
    rw [Book.enterAll?_nil, Store.book, Store.book, hslots, recordOf_update hs hlocated,
      Book.ofRecords_update_gateway]
  | createCounter source => exact ⟨[], rfl, congrArg some (book_createCounter hs hprogram hrun).symm⟩
  | createRegistry layer chain signers threshold =>
    obtain ⟨c, r, hc, -, -, hslots, -⟩ := createRegistry_ok hprogram hrun
    refine ⟨[], rfl, ?_⟩
    rw [Book.enterAll?_nil, Store.book, Store.book, hslots, recordOf_update hs hc.located,
      Book.ofRecords_update_registry]
  | changeRegistry layer chain change =>
    obtain ⟨address, r, r', hopened, -, -, -, hslots, -⟩ := changeRegistry_ok hrun
    have hlocated : scheme.locate (.registry r.layer r.chain) = some (address, r.bump) :=
      ho.locate_key hopened.slot
    refine ⟨[], rfl, ?_⟩
    rw [Book.enterAll?_nil, Store.book, Store.book, hslots, recordOf_update hs hlocated,
      Book.ofRecords_update_registry]
  | request txId recipient destination data confirmations =>
    obtain ⟨gatewayAddress, g, sender, -, -, -, -, hstore, -⟩ := request_ok hrun
    refine ⟨[], rfl, ?_⟩
    rw [hstore, Book.enterAll?_nil]
  | commit m signatures =>
    obtain ⟨marker, henter⟩ := book_commit hs hprogram ho hrun
    exact ⟨[.commit m.key marker], rfl, Book.enterAll?_cons_eq_some.2 ⟨_, henter, rfl⟩⟩
  | settle m signatures =>
    have henter := book_settle hs hprogram hrun
    exact ⟨[.settle m.key], rfl, Book.enterAll?_cons_eq_some.2 ⟨_, henter, rfl⟩⟩

/-- A call that succeeds announces the phase that it asks for, and no other one. -/
theorem phases_of_events (hprogram : inv.program = .gate)
    (hrun : (run scheme inv store call).outcome = .ok out) :
    out.events.filterMap Event.phase? = call.phase?.toList := by
  cases call with
  | createGateway chain =>
    obtain ⟨c, -, -, -, -, hevents, -⟩ := createGateway_ok hprogram hrun
    rw [hevents]
    rfl
  | switchGateway enabled =>
    obtain ⟨address, g, -, -, -, hevents, -⟩ := switchGateway_ok hrun
    rw [hevents]
    rfl
  | createCounter source =>
    obtain ⟨c, -, -, -, -, hevents, -⟩ := createCounter_ok hprogram hrun
    rw [hevents]
    rfl
  | createRegistry layer chain signers threshold =>
    obtain ⟨c, r, -, -, -, -, hevents, -⟩ := createRegistry_ok hprogram hrun
    rw [hevents]
    rfl
  | changeRegistry layer chain change =>
    obtain ⟨address, r, r', -, -, -, -, -, hevents, -⟩ := changeRegistry_ok hrun
    rw [hevents]
    rfl
  | request txId recipient destination data confirmations =>
    obtain ⟨gatewayAddress, g, sender, -, -, -, -, -, hevents⟩ := request_ok hrun
    rw [hevents]
    rfl
  | commit m signatures =>
    obtain ⟨a, -, -, -, -, hevents, -⟩ := commit_ok hprogram hrun
    rw [hevents]
    rfl
  | settle m signatures =>
    obtain ⟨a, layers, preceding, marker, tally, -, -, -, -, -, hevents, -⟩ := settle_ok hprogram hrun
    rw [hevents]
    rfl

end Program

/-! ## Runs -/

namespace Store

/-- The commits and settlements that succeed in a run, in order. -/
def history (scheme : AddressScheme) (store : Store) (ts : List Transaction) : List Phase :=
  (store.completions scheme ts).flatMap fun c => c.1.phase?.toList

/-- What a run announces, in order. -/
def announced (scheme : AddressScheme) (store : Store) (ts : List Transaction) : List Event :=
  (store.completions scheme ts).flatMap fun c => c.2

theorem history_cons_of_some {t : Transaction} {rest : List Transaction} {events : List Event}
    (h : t.completion? scheme store = some (call, events)) :
    store.history scheme (t :: rest) =
      call.phase?.toList ++ (t.apply scheme store).history scheme rest := by
  rw [history, completions, h]
  rfl

theorem history_cons_of_none {t : Transaction} {rest : List Transaction}
    (h : t.completion? scheme store = none) :
    store.history scheme (t :: rest) = (t.apply scheme store).history scheme rest := by
  rw [history, completions, h]
  rfl

theorem history_append (store : Store) (before rest : List Transaction) :
    store.history scheme (before ++ rest) =
      store.history scheme before ++ (store.after scheme before).history scheme rest := by
  induction before generalizing store with
  | nil => rfl
  | cons t before ih =>
    rw [List.cons_append]
    cases hcompletion : t.completion? scheme store with
    | none => rw [history_cons_of_none hcompletion, history_cons_of_none hcompletion, ih]; rfl
    | some c =>
      rw [history_cons_of_some hcompletion, history_cons_of_some hcompletion, ih, List.append_assoc]
      rfl

/-- The history of a run leads from the book at its start to the book at its end. -/
theorem book_after (hs : scheme.Separates) (ho : Ordered scheme store.slots) (ts : List Transaction) :
    ∃ entries, entries.map Entry.phase = store.history scheme ts ∧
      (store.book scheme).enterAll? entries = some ((store.after scheme ts).book scheme) := by
  induction ts generalizing store with
  | nil => exact ⟨[], rfl, rfl⟩
  | cons t rest ih =>
    obtain ⟨later, hlater, hbook⟩ := ih (Transaction.ordered_apply (t := t) ho)
    have hexpose : (t.expose store).book scheme = store.book scheme := by
      rw [Store.book, recordOf_expose ho, Store.book]
    have hafter : store.after scheme (t :: rest) = (t.apply scheme store).after scheme rest := rfl
    rcases t.completion?_cases scheme store with
      ⟨call, out, hprogram, -, hrun, hcompletion, happly⟩ | ⟨hcompletion, happly⟩
    · obtain ⟨entries, hphase, henter⟩ := Program.book_run hs hprogram (t.ordered_expose ho) hrun
      rw [hexpose, ← happly] at henter
      refine ⟨entries ++ later, ?_, Book.enterAll?_append_eq_some.2 ⟨_, henter, hbook⟩⟩
      rw [List.map_append, hphase, hlater, history_cons_of_some hcompletion]
    · refine ⟨later, ?_, ?_⟩
      · rw [hlater, history_cons_of_none hcompletion]
      · rw [hafter, ← hbook, happly, hexpose]

/-- A run announces the commits and settlements that succeed in it, each once. -/
theorem phases_of_announced (store : Store) (ts : List Transaction) :
    (store.announced scheme ts).filterMap Event.phase? = store.history scheme ts := by
  induction ts generalizing store with
  | nil => rfl
  | cons t rest ih =>
    have hrest := ih (t.apply scheme store)
    rcases t.completion?_cases scheme store with
      ⟨call, out, hprogram, -, hrun, hcompletion, -⟩ | ⟨hcompletion, -⟩
    · rw [history_cons_of_some hcompletion, ← Program.phases_of_events hprogram hrun, ← hrest, announced,
        completions, hcompletion, Option.toList_some, List.flatMap_append, List.filterMap_append,
        List.flatMap_singleton, announced]
    · rw [history_cons_of_none hcompletion, ← hrest, announced, completions, hcompletion]
      rfl

end Store

end RelayGate
