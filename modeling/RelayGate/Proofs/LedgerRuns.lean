import Mathlib.Logic.Function.Basic
import RelayGate.Ledger
import RelayGate.Proofs.Book
import RelayGate.Proofs.Phases

/-!
# Runs of a ledger

What a step does to a ledger is said once (`transition_step`): which marker and which counter it writes,
and that it leaves the others alone.

A ledger keeps a book: its markers, and how far its counters have come. A step that does not store a
marker by force changes the book only by the entry that its answer reports (`book_step`), so a run is
a list of entries (`book_run`), whatever else its steps did to the gateway and the registries.
-/

namespace RelayGate

namespace Table

variable {κ α : Type} [Ranked κ] [DecidableEq κ]

theorem get?_insert_eq_update (t : Table κ α) (k : κ) (a : α) :
    (t.insert k a).get? = Function.update t.get? k (some a) := by
  funext k'
  by_cases h : k' = k
  · subst h
    simp
  · rw [get?_insert_of_ne t h, Function.update_of_ne h]

theorem get?_erase_eq_update (t : Table κ α) (k : κ) :
    (t.erase k).get? = Function.update t.get? k none := by
  funext k'
  by_cases h : k' = k
  · subst h
    simp
  · rw [get?_erase_of_ne t h, Function.update_of_ne h]

end Table

namespace Ledger

open Book (Entry Phase)

variable {l l₀ : Ledger} {steps : List Step} {m : Message} {signatures : List Signature} {bump : UInt8}
  {verify : Verifier} {key : MarkerKey}

/-- The markers of a ledger, and how far its counters have come. -/
def book (l : Ledger) : Book where
  pending := l.markers.get?
  highest source := (l.counter source).highest

/-- Whether a step stores a marker by force. -/
def Step.forces : Step → Bool
  | .putMarker _ _ => true
  | _ => false

/-- The entry that a step makes in the book, as its answer says. -/
def Step.entry? : Step → Traced GateError Answer → Option Entry
  | .commit m _ bump, answer =>
    if answer.outcome.isOk then some (.commit m.key (Delivery.markerOf m bump)) else none
  | .settle m _ _, answer => if answer.outcome.isOk then some (.settle m.key) else none
  | _, _ => none

/-- The entries of a run, in order. -/
def entries (l : Ledger) (steps : List Step) : List Entry :=
  (steps.zipWith Step.entry? (l.run steps).2).flatMap Option.toList

/-- The commits and settlements that succeed in a run, in order. -/
def history (l : Ledger) (steps : List Step) : List Phase := (l.entries steps).map Entry.phase

/-- Only a commit that succeeds makes a commit's entry. -/
theorem Step.entry?_eq_commit {s : Step} {answer : Traced GateError Answer} {marker : Marker}
    (h : s.entry? answer = some (.commit key marker)) :
    ∃ m signatures bump, s = .commit m signatures bump ∧ answer.outcome.isOk = true ∧
      m.key = key ∧ Delivery.markerOf m bump = marker := by
  cases s with
  | commit m signatures bump =>
    obtain ⟨hok, heq⟩ := Option.ite_none_right_eq_some.1 h
    obtain ⟨hkey, hmarker⟩ := Entry.commit.inj (Option.some.inj heq)
    exact ⟨m, signatures, bump, rfl, hok, hkey, hmarker⟩
  | settle m signatures verify =>
    obtain ⟨-, heq⟩ := Option.ite_none_right_eq_some.1 h
    cases heq
  | changeRegistry layer change => cases h
  | setGateway gateway => cases h
  | setProject project => cases h
  | putMarker k marker => cases h

/-! ## Single steps -/

/-- A commit that succeeds was allowed, stores the marker of its message and moves the counter of its
source chain on to its id. -/
theorem commit_of_isOk (h : (l.commit m signatures bump).2.outcome.isOk = true) :
    Delivery.Committable (l.markers.get? m.key) l.gateway (l.counter m.source) m signatures ∧
      (l.commit m signatures bump).2.outcome = .ok (.committed (Delivery.markerOf m bump)) ∧
        (l.commit m signatures bump).1 =
          { l with
            counters :=
              (l.counters.insert m.source (l.counter m.source)).insert m.source
                { l.counter m.source with highest := m.txId }
            markers := l.markers.insert m.key (Delivery.markerOf m bump) } := by
  unfold commit at h ⊢
  dsimp only at h ⊢
  split at h
  · next marker counter hresult =>
    simp only [Traced.outcome_bind_eq_ok, Delivery.outcome_commit_eq_ok,
      Counter.outcome_advance_eq_ok, Traced.outcome_pure, Except.ok.injEq, Prod.mk.injEq] at hresult
    obtain ⟨-, ⟨hc, rfl⟩, -, ⟨-, rfl⟩, rfl, rfl⟩ := hresult
    exact ⟨hc, rfl, rfl⟩
  · simp [Except.isOk, Except.toBool] at h

/-- A commit that fails only sees to it that its source chain has a counter. -/
theorem commit_of_not_isOk (h : (l.commit m signatures bump).2.outcome.isOk = false) :
    (l.commit m signatures bump).1 =
      { l with counters := l.counters.insert m.source (l.counter m.source) } := by
  unfold commit at h ⊢
  dsimp only at h ⊢
  split at h
  · simp [Except.isOk, Except.toBool] at h
  · rfl

/-- A settlement that succeeds was allowed, reports the digest of its message and removes the
marker. -/
theorem settle_of_isOk (h : (l.settle m signatures verify).2.outcome.isOk = true) :
    ∃ marker tally,
      Delivery.Settleable (l.markers.get? m.key) l.gateway m signatures l.layers verify marker tally ∧
        (l.settle m signatures verify).2.outcome = .ok (.settled { digest := m.hash, tally }) ∧
          (l.settle m signatures verify).1 = { l with markers := l.markers.erase m.key } := by
  unfold settle at h ⊢
  dsimp only at h ⊢
  split at h
  · next settlement hresult =>
    obtain ⟨hdigest, marker, hs⟩ := Delivery.outcome_settle_eq_ok.1 hresult
    refine ⟨marker, settlement.tally, hs, ?_, rfl⟩
    rw [← hdigest]
  · simp [Except.isOk, Except.toBool] at h

/-- A settlement that fails changes nothing. -/
theorem settle_of_not_isOk (h : (l.settle m signatures verify).2.outcome.isOk = false) :
    (l.settle m signatures verify).1 = l := by
  unfold settle at h ⊢
  dsimp only at h ⊢
  split at h
  · simp [Except.isOk, Except.toBool] at h
  · rfl

theorem counter_of_get? {source : UInt64} {c : Counter} (h : l.counters.get? source = some c) :
    l.counter source = c := by
  rw [counter, h]

/-- Moving the counter on does not refuse what the commit let pass. -/
theorem outcome_commit :
    (l.commit m signatures bump).2.outcome =
      (Delivery.commit (l.markers.get? m.key) l.gateway (l.counter m.source) m signatures
        bump).outcome.map .committed := by
  unfold commit
  dsimp only
  cases hcommit : (Delivery.commit (l.markers.get? m.key) l.gateway (l.counter m.source) m signatures
      bump).outcome with
  | error e =>
    simp only [Traced.outcome_bind, hcommit]
    rfl
  | ok marker =>
    have hfresh := (Delivery.outcome_commit_eq_ok.1 hcommit).1.fresh
    have hadvance := Counter.outcome_advance_eq_ok.2 ⟨hfresh, rfl⟩
    simp only [Traced.outcome_bind, hcommit, hadvance, Except.bind, Traced.outcome_pure]
    rfl

theorem outcome_settle :
    (l.settle m signatures verify).2.outcome =
      (Delivery.settle (l.markers.get? m.key) l.gateway m signatures l.layers verify).outcome.map
        .settled := by
  unfold settle
  dsimp only
  cases (Delivery.settle (l.markers.get? m.key) l.gateway m signatures l.layers verify).outcome <;> rfl

/-- A change of a registry concerns neither markers nor counters. -/
theorem tables_of_changeRegistry {l' : Ledger} {layer : Layer} {change : Registry.Change}
    (h : l.changeRegistry layer change = .ok l') : l'.markers = l.markers ∧ l'.counters = l.counters := by
  unfold changeRegistry at h
  split at h
  · obtain ⟨r, -, hr⟩ := except_bind_eq_ok.1 h
    obtain rfl := except_pure_eq_ok.1 hr
    cases layer <;> exact ⟨rfl, rfl⟩
  · injection h with h
    subst h
    exact ⟨rfl, rfl⟩

/-! ## What a step does -/

/-- The key whose marker a phase reads and writes. -/
def Step.key? : Step → Option MarkerKey
  | .commit m _ _ => some m.key
  | .settle m _ _ => some m.key
  | _ => none

/-- The source chain whose counter a step reads and moves. -/
def Step.counts? : Step → Option UInt64
  | .commit m _ _ => some m.source
  | _ => none

/-- The ledger that a step leaves. -/
inductive Transition (l : Ledger) : Step → Ledger → Prop where
  | committed {m : Message} {signatures : List Signature} {bump : UInt8}
      (hok : (l.commit m signatures bump).2.outcome.isOk = true) :
      Transition l (.commit m signatures bump)
        { l with
          counters :=
            (l.counters.insert m.source (l.counter m.source)).insert m.source
              { l.counter m.source with highest := m.txId }
          markers := l.markers.insert m.key (Delivery.markerOf m bump) }
  | opened {m : Message} {signatures : List Signature} {bump : UInt8}
      (hrefused : (l.commit m signatures bump).2.outcome.isOk = false) :
      Transition l (.commit m signatures bump)
        { l with counters := l.counters.insert m.source (l.counter m.source) }
  | settled {m : Message} {signatures : List Signature} {verify : Verifier}
      (hok : (l.settle m signatures verify).2.outcome.isOk = true) :
      Transition l (.settle m signatures verify) { l with markers := l.markers.erase m.key }
  | unsettled {m : Message} {signatures : List Signature} {verify : Verifier}
      (hrefused : (l.settle m signatures verify).2.outcome.isOk = false) :
      Transition l (.settle m signatures verify) l
  /-- The gateway or the registries may be others now. -/
  | configured {s : Step} {l' : Ledger} (hphase : s.key? = none) (hmarkers : l'.markers = l.markers)
      (hcounters : l'.counters = l.counters) : Transition l s l'
  | forced (key : MarkerKey) (marker : Marker) :
      Transition l (.putMarker key marker) { l with markers := l.markers.insert key marker }

theorem transition_step (l : Ledger) (s : Step) : l.Transition s (l.step s).1 := by
  cases s with
  | commit m signatures bump =>
    rw [step]
    cases hok : (l.commit m signatures bump).2.outcome.isOk with
    | true =>
      rw [(commit_of_isOk hok).2.2]
      exact .committed hok
    | false =>
      rw [commit_of_not_isOk hok]
      exact .opened hok
  | settle m signatures verify =>
    rw [step]
    cases hok : (l.settle m signatures verify).2.outcome.isOk with
    | true =>
      obtain ⟨marker, tally, -, -, hstate⟩ := settle_of_isOk hok
      rw [hstate]
      exact .settled hok
    | false =>
      rw [settle_of_not_isOk hok]
      exact .unsettled hok
  | changeRegistry layer change =>
    rw [step]
    split
    · next hchange =>
      obtain ⟨hmarkers, hcounters⟩ := tables_of_changeRegistry hchange
      exact .configured rfl hmarkers hcounters
    · exact .configured rfl rfl rfl
  | setGateway gateway => exact .configured rfl rfl rfl
  | setProject project => exact .configured rfl rfl rfl
  | putMarker key marker => exact .forced key marker

/-- A step concerns no counter but the one of the chain that it counts on. -/
theorem counters_step_of_ne {s : Step} {source : UInt64} (h : s.counts? ≠ some source) :
    (l.step s).1.counters.get? source = l.counters.get? source := by
  have ht := l.transition_step s
  generalize (l.step s).1 = l' at ht ⊢
  cases ht with
  | committed hok =>
    have hne : source ≠ _ := fun heq => h (congrArg some heq.symm)
    exact (Table.get?_insert_of_ne _ hne _).trans (Table.get?_insert_of_ne _ hne _)
  | opened hrefused =>
    have hne : source ≠ _ := fun heq => h (congrArg some heq.symm)
    exact Table.get?_insert_of_ne _ hne _
  | settled hok => rfl
  | unsettled hrefused => rfl
  | configured hphase hmarkers hcounters => rw [hcounters]
  | forced key marker => rfl

/-- A phase concerns no marker but the one under its key. -/
theorem markers_step_of_ne {s : Step} (hs : s.forces = false) (h : s.key? ≠ some key) :
    (l.step s).1.markers.get? key = l.markers.get? key := by
  have ht := l.transition_step s
  generalize (l.step s).1 = l' at ht ⊢
  cases ht with
  | committed hok =>
    have hne : key ≠ _ := fun heq => h (congrArg some heq.symm)
    exact Table.get?_insert_of_ne _ hne _
  | opened hrefused => rfl
  | settled hok =>
    have hne : key ≠ _ := fun heq => h (congrArg some heq.symm)
    exact Table.get?_erase_of_ne _ hne
  | unsettled hrefused => rfl
  | configured hphase hmarkers hcounters => rw [hmarkers]
  | forced key marker => cases hs

/-! ## The book of a ledger -/

theorem book_changeRegistry {l' : Ledger} {layer : Layer} {change : Registry.Change}
    (h : l.changeRegistry layer change = .ok l') : l'.book = l.book := by
  obtain ⟨hmarkers, hcounters⟩ := tables_of_changeRegistry h
  simp only [book, counter, hmarkers, hcounters]

/-- A counter that is made on demand has seen nothing, as a missing one. -/
theorem book_counters_insert (l : Ledger) (source : UInt64) :
    ({ l with counters := l.counters.insert source (l.counter source) } : Ledger).book = l.book := by
  have hhighest : ∀ s, ({ l with counters := l.counters.insert source (l.counter source) } :
      Ledger).counter s = l.counter s := by
    intro s
    by_cases hs : s = source
    · subst hs
      simp [counter]
    · simp [counter, Table.get?_insert_of_ne _ hs]
  simp only [book, hhighest]

theorem book_commit (h : (l.commit m signatures bump).2.outcome.isOk = true) :
    l.book.enter? (.commit m.key (Delivery.markerOf m bump)) =
      some (l.commit m signatures bump).1.book := by
  obtain ⟨hc, -, hstate⟩ := commit_of_isOk h
  rw [hstate]
  refine Book.enter?_commit_eq_some.2 ⟨hc.absent, hc.fresh, ?_⟩
  simp only [book, Table.get?_insert_eq_update, Book.mk.injEq, true_and]
  funext s
  by_cases hs : s = m.source
  · subst hs
    simp [counter, Message.key]
  · simp [counter, Message.key, Function.update_of_ne hs, Table.get?_insert_of_ne _ hs]

theorem book_settle (h : (l.settle m signatures verify).2.outcome.isOk = true) :
    l.book.enter? (.settle m.key) = some (l.settle m signatures verify).1.book := by
  obtain ⟨marker, tally, hs, -, hstate⟩ := settle_of_isOk h
  rw [hstate]
  refine Book.enter?_settle_eq_some.2 ⟨?_, ?_⟩
  · simp [book, hs.present]
  · simp only [book, Table.get?_erase_eq_update, Book.mk.injEq, true_and]
    rfl

/-- A step enters in the book what its answer reports, and changes it in no other way. -/
theorem book_step {s : Step} (hs : s.forces = false) :
    l.book.enterAll? (s.entry? (l.step s).2).toList = some (l.step s).1.book := by
  cases s with
  | commit m signatures bump =>
    cases hok : (l.commit m signatures bump).2.outcome.isOk with
    | true => simpa [step, Step.entry?, hok, Book.enterAll?] using book_commit hok
    | false =>
      simp only [step, Step.entry?, hok, commit_of_not_isOk hok, book_counters_insert]
      rfl
  | settle m signatures verify =>
    cases hok : (l.settle m signatures verify).2.outcome.isOk with
    | true => simpa [step, Step.entry?, hok, Book.enterAll?] using book_settle hok
    | false =>
      simp only [step, Step.entry?, hok, settle_of_not_isOk hok]
      rfl
  | changeRegistry layer change =>
    simp only [step, Step.entry?, Option.toList_none, Book.enterAll?_nil, Option.some.injEq]
    split
    · next hchange => exact (book_changeRegistry hchange).symm
    · rfl
  | setGateway gateway => rfl
  | setProject project => rfl
  | putMarker k marker => cases hs

/-! ## Runs -/

@[simp] theorem run_nil (l : Ledger) : l.run [] = (l, []) := rfl

theorem run_cons (l : Ledger) (s : Step) (rest : List Step) :
    l.run (s :: rest) = (((l.step s).1.run rest).1, (l.step s).2 :: ((l.step s).1.run rest).2) := rfl

theorem run_append (l : Ledger) (steps more : List Step) :
    (l.run (steps ++ more)).1 = ((l.run steps).1.run more).1 := by
  induction steps generalizing l with
  | nil => rfl
  | cons s rest ih => exact ih (l.step s).1

@[simp] theorem entries_nil (l : Ledger) : l.entries [] = [] := rfl

theorem entries_cons (l : Ledger) (s : Step) (rest : List Step) :
    l.entries (s :: rest) = (s.entry? (l.step s).2).toList ++ (l.step s).1.entries rest := rfl

theorem entries_append (l : Ledger) (steps more : List Step) :
    l.entries (steps ++ more) = l.entries steps ++ (l.run steps).1.entries more := by
  induction steps generalizing l with
  | nil => rfl
  | cons s rest ih =>
    rw [List.cons_append, entries_cons, ih, entries_cons, List.append_assoc]
    rfl

/-- The entries of a run lead from the book at its start to the book at its end. -/
theorem book_run (hs : ∀ s ∈ steps, s.forces = false) :
    l.book.enterAll? (l.entries steps) = some (l.run steps).1.book := by
  induction steps generalizing l with
  | nil => rfl
  | cons s rest ih =>
    rw [entries_cons]
    refine Book.enterAll?_append_eq_some.2 ⟨(l.step s).1.book, book_step (hs s (by simp)), ?_⟩
    exact ih fun t ht => hs t (by simp [ht])

theorem get?_run_of_others {key : MarkerKey} (hs : ∀ s ∈ steps, s.forces = false)
    (hother : ∀ e ∈ l.entries steps, e.key ≠ key) :
    (l.run steps).1.markers.get? key = l.markers.get? key :=
  Book.pending_of_enterAll? (book_run hs) hother

end Ledger

end RelayGate
