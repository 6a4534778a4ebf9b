import RelayGate.Proofs.LedgerDelivery

/-!
# Markers and counters of a run

Markers and counters are kept apart, and each is checked for itself when a message is committed. In every
run of a ledger that starts without markers they fit together (`Consistent`): what is pending was committed
in the run, under its own key and with the digest of its message, and the counter of its chain has come
as far as its id. A counter stands where the last commit on its chain has put it, each higher than the one
before. No other step moves a counter, and a commit that is let pass is stored (`consistent_run`).
-/

namespace RelayGate.Ledger

open Book (committedIds)

variable {l : Ledger} {steps : List Step} {m : Message} {signatures : List Signature} {bump : UInt8}
  {key : MarkerKey} {marker : Marker} {s : Step} {source : UInt64} {id : TxId}

/-- In a run of these steps a commit stored the marker under the key of its message, with the digest of
its message. No commit and no settlement of that key succeeded since. -/
def StoredBy (l : Ledger) (steps : List Step) (key : MarkerKey) (marker : Marker) : Prop :=
  ∃ before m signatures bump after,
    steps = before ++ .commit m signatures bump :: after ∧ m.key = key ∧
      ((l.run before).1.step (.commit m signatures bump)).2.outcome = .ok (.committed marker) ∧
      m.digest.outcome = .ok marker.digest ∧
      ∀ e ∈ ((l.run before).1.step (.commit m signatures bump)).1.entries after, e.key ≠ key

/-- How the markers and counters at the end of a run of these steps fit the run. A chain that has no
counter counts as one where nothing was seen. -/
structure Consistent (l : Ledger) (steps : List Step) : Prop where
  own_key : ∀ key marker, (l.run steps).1.markers.get? key = some marker →
    key = { source := marker.source, txId := marker.txId }
  stored : ∀ key marker, (l.run steps).1.markers.get? key = some marker → l.StoredBy steps key marker
  counted : ∀ key marker, (l.run steps).1.markers.get? key = some marker →
    ∃ c, (l.run steps).1.counters.get? key.source = some c ∧ key.txId ≤ c.highest
  rising : ∀ source,
    ((l.counter source).highest :: committedIds (l.history steps) source).Pairwise (· < ·)
  highest_mem : ∀ source, ((l.run steps).1.counter source).highest ∈
    (l.counter source).highest :: committedIds (l.history steps) source
  le_highest : ∀ source, ∀ id ∈ (l.counter source).highest :: committedIds (l.history steps) source,
    id ≤ ((l.run steps).1.counter source).highest

/-! ## Counters -/

/-- Only a commit that succeeds moves the counter of its chain. Any other step leaves it as it is, or makes
one where there was none. -/
theorem counters_step_of_not_committed
    (h : ¬(s.counts? = some source ∧ (l.step s).2.outcome.isOk = true)) :
    (l.step s).1.counters.get? source = l.counters.get? source ∨
      s.counts? = some source ∧ l.counters.get? source = none ∧
        (l.step s).1.counters.get? source =
          some { chain := source, highest := 0, bump := freshBump } := by
  by_cases hcounts : s.counts? = some source
  · have hrefused : (l.step s).2.outcome.isOk = false := by simpa [hcounts] using h
    cases s with
    | commit m signatures bump =>
      obtain rfl : m.source = source := Option.some.inj hcounts
      have hget : (l.step (.commit m signatures bump)).1.counters.get? m.source =
          some (l.counter m.source) := by
        rw [step, commit_of_not_isOk hrefused]
        exact Table.get?_insert_self _ _ _
      cases hcounter : l.counters.get? m.source with
      | none =>
        rw [counter, hcounter] at hget
        exact .inr ⟨rfl, rfl, hget⟩
      | some c =>
        rw [counter_of_get? hcounter] at hget
        exact .inl hget
    | _ => cases hcounts
  · exact .inl (counters_step_of_ne hcounts)

/-- A counter that has seen something is there. -/
theorem get?_counters_of_lt (h : id < (l.counter source).highest) :
    l.counters.get? source = some (l.counter source) := by
  cases hget : l.counters.get? source with
  | some c => rw [counter_of_get? hget]
  | none =>
    rw [counter, hget] at h
    exact absurd h (BitVec.not_lt_zero)

/-! ## Commits -/

/-- Once the marker of a message is allowed, nothing comes between: the counter moves on, and both are
stored. -/
theorem commit_of_allowed
    (h : (Delivery.commit (l.markers.get? m.key) l.gateway (l.counter m.source) m signatures
      bump).outcome = .ok marker) :
    ∃ c, ((l.counter m.source).advance m.txId).outcome = .ok c ∧
      (l.step (.commit m signatures bump)).2.outcome = .ok (.committed marker) ∧
        (l.step (.commit m signatures bump)).1.markers.get? m.key = some marker ∧
          (l.step (.commit m signatures bump)).1.counters.get? m.source = some c := by
  obtain ⟨hc, rfl⟩ := Delivery.outcome_commit_eq_ok.1 h
  have hanswer : (l.commit m signatures bump).2.outcome =
      .ok (.committed (Delivery.markerOf m bump)) := by
    rw [outcome_commit, h]
    rfl
  have hok : (l.commit m signatures bump).2.outcome.isOk = true := by
    rw [hanswer]
    rfl
  obtain ⟨-, -, hstate⟩ := commit_of_isOk hok
  refine ⟨_, Counter.outcome_advance_eq_ok.2 ⟨hc.fresh, rfl⟩, hanswer, ?_, ?_⟩
  · rw [step, hstate]
    exact Table.get?_insert_self _ _ _
  · rw [step, hstate]
    exact Table.get?_insert_self _ _ _

/-! ## Runs -/

/-- What is pending after a run that starts without markers was stored by a commit of the run. -/
theorem storedBy_of_pending (hempty : l.markers = Table.empty) (hs : ∀ s ∈ steps, s.forces = false)
    (hpending : (l.run steps).1.markers.get? key = some marker) :
    l.StoredBy steps key marker ∧ key = { source := marker.source, txId := marker.txId } ∧
      key.txId ∈ committedIds (l.history steps) key.source := by
  have habsent : l.markers.get? key = none := by
    rw [hempty]
    rfl
  obtain ⟨before, m, signatures, bump, after, rfl, rfl, rfl, hok, hafter⟩ :=
    exists_commit_of_pending habsent hs hpending
  obtain ⟨hc, hanswer, -⟩ := commit_of_isOk hok
  refine ⟨⟨before, m, signatures, bump, after, rfl, rfl, hanswer,
    Message.outcome_digest_eq_ok.2 ⟨hc.limits, rfl⟩, hafter⟩, rfl, Book.mem_committedIds.2 ?_⟩
  refine List.mem_map.2 ⟨.commit m.key (Delivery.markerOf m bump), ?_, rfl⟩
  rw [entries_append, entries_cons]
  refine List.mem_append_right _ (List.mem_append_left _ ?_)
  rw [step, Step.entry?, if_pos hok]
  exact List.mem_singleton_self _

theorem consistent_of_run (hempty : l.markers = Table.empty) (hs : ∀ s ∈ steps, s.forces = false) :
    l.Consistent steps := by
  have hrun := book_run (l := l) hs
  refine
    { own_key := fun key marker h => (storedBy_of_pending hempty hs h).2.1
      stored := fun key marker h => (storedBy_of_pending hempty hs h).1
      counted := fun key marker h => ?_
      rising := fun source => (Book.ascent hrun source).1
      highest_mem := fun source => Book.highest_mem hrun source
      le_highest := fun source id hid => Book.le_highest hrun hid }
  -- an id that was committed is above where its chain was, so the chain has a counter now
  obtain ⟨-, -, hid⟩ := storedBy_of_pending hempty hs h
  have hle := Book.le_highest hrun (List.mem_cons_of_mem _ hid)
  have hlt := List.rel_of_pairwise_cons (Book.ascent hrun key.source).1 hid
  exact ⟨_, get?_counters_of_lt (Nat.lt_of_lt_of_le hlt hle), hle⟩

/-- In every run of a ledger that starts without markers, markers and counters fit together and fit the
run. From there no step but a commit that succeeds moves a counter, unless it makes one where there was
none, and a commit whose marker is allowed goes through. -/
theorem consistent_run (hempty : l.markers = Table.empty) (hs : ∀ s ∈ steps, s.forces = false) :
    l.Consistent steps ∧
      (∀ (s : Step) (source : UInt64),
        ¬(s.counts? = some source ∧ ((l.run steps).1.step s).2.outcome.isOk = true) →
          ((l.run steps).1.step s).1.counters.get? source = (l.run steps).1.counters.get? source ∨
            s.counts? = some source ∧ (l.run steps).1.counters.get? source = none ∧
              ((l.run steps).1.step s).1.counters.get? source =
                some { chain := source, highest := 0, bump := freshBump }) ∧
      ∀ (m : Message) (signatures : List Signature) (bump : UInt8) (marker : Marker),
        (Delivery.commit ((l.run steps).1.markers.get? m.key) (l.run steps).1.gateway
            ((l.run steps).1.counter m.source) m signatures bump).outcome = .ok marker →
          ∃ c, (((l.run steps).1.counter m.source).advance m.txId).outcome = .ok c ∧
            ((l.run steps).1.step (.commit m signatures bump)).2.outcome = .ok (.committed marker) ∧
              ((l.run steps).1.step (.commit m signatures bump)).1.markers.get? m.key = some marker ∧
                ((l.run steps).1.step (.commit m signatures bump)).1.counters.get? m.source = some c :=
  ⟨consistent_of_run hempty hs, fun _ _ h => counters_step_of_not_committed h,
    fun _ _ _ _ h => commit_of_allowed h⟩

/-- Both phases of one message, with attempts that fail, then the commit of a later message, and a commit
without signatures from another chain. -/
def exampleTraffic : List Step :=
  exampleTrials ++ exampleReplay ++
    [.commit { exampleMessage with txId := 5 } exampleSignatures 255,
      .commit { exampleMessage with source := 7 } [] 255]

theorem consistent_run_in_traffic :
    exampleLedger.markers = Table.empty ∧ (∀ s ∈ exampleTraffic, s.forces = false) ∧
      committedIds (exampleLedger.history exampleTraffic) 43113 = [1, 5] ∧
      (exampleLedger.run exampleTraffic).1.markers.get? { source := 43113, txId := 5 } ≠ none ∧
      (exampleLedger.run exampleTraffic).1.counters.get? 7 =
        some { chain := 7, highest := 0, bump := freshBump } ∧
      exampleLedger.Consistent exampleTraffic := by
  have hs : ∀ s ∈ exampleTraffic, s.forces = false := by decide
  exact ⟨rfl, hs, by decide +kernel, by decide +kernel, by decide +kernel, (consistent_run rfl hs).1⟩

end RelayGate.Ledger
