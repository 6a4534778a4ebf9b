import Mathlib.Data.List.Count
import Mathlib.Data.List.Pairwise
import Mathlib.Logic.Function.Basic
import RelayGate.Marker

/-!
# The book of deliveries

What decides the fate of a delivery is little: which markers are pending, and how far the counter of
each source chain has come. A `Book` holds just this, and is only changed by entering a commit or a
settlement.

A ledger keeps a book, and so does a store in which the program runs; whatever else either of them
does leaves its book alone. So each rule about runs is shown here once, for every list of entries.
Main statements: along every run the ids that are committed on a source chain rise (`ascent`), so a key
is committed at most once (`count_committed_le_one`). Its commits and settlements balance with what is
pending (`balance`), and so it is settled at most once (`count_settled_le_one`), after it was committed
(`settled_after_committed`).
-/

namespace RelayGate

/-- Pending deliveries, and how far each source chain has come. -/
structure Book where
  /-- The marker that is pending under a key. -/
  pending : MarkerKey → Option Marker
  /-- The highest transaction id seen from a source chain; zero where there was none. -/
  highest : UInt64 → TxId

namespace Book

/-- A phase of a delivery that succeeded. -/
inductive Phase where
  /-- The delivery of this key was committed. -/
  | committed (key : MarkerKey)
  /-- The delivery of this key was settled. -/
  | settled (key : MarkerKey)
deriving DecidableEq

/-- The id that a phase commits on a source chain. -/
def Phase.committedOn? (source : UInt64) : Phase → Option TxId
  | committed key => if key.source = source then some key.txId else none
  | settled _ => none

/-- The ids that are committed on a source chain, in order. -/
def committedIds (phases : List Phase) (source : UInt64) : List TxId :=
  phases.filterMap (Phase.committedOn? source)

/-- A change of the book. -/
inductive Entry where
  /-- The marker of a key becomes pending. -/
  | commit (key : MarkerKey) (marker : Marker)
  /-- The marker of a key is removed. -/
  | settle (key : MarkerKey)
deriving DecidableEq

namespace Entry

/-- The key that an entry is about. -/
def key : Entry → MarkerKey
  | commit key _ => key
  | settle key => key

/-- The phase that makes an entry. -/
def phase : Entry → Phase
  | commit key _ => .committed key
  | settle key => .settled key

end Entry

/-- The book with one entry more. A commit needs a key under which nothing is pending, and an id that
is above the highest one seen; a settlement needs something that is pending. -/
def enter? (b : Book) : Entry → Option Book
  | .commit key marker =>
    if b.pending key = none ∧ b.highest key.source < key.txId then
      some
        { pending := Function.update b.pending key (some marker)
          highest := Function.update b.highest key.source key.txId }
    else none
  | .settle key =>
    if b.pending key ≠ none then
      some { b with pending := Function.update b.pending key none }
    else none

/-- The book with a list of entries more. -/
def enterAll? (b : Book) (entries : List Entry) : Option Book := entries.foldlM enter? b

variable {b b' : Book} {key : MarkerKey} {marker : Marker} {e : Entry} {entries : List Entry}

/-! ## One entry -/

theorem enter?_commit_eq_some :
    b.enter? (.commit key marker) = some b' ↔
      b.pending key = none ∧ b.highest key.source < key.txId ∧
        { pending := Function.update b.pending key (some marker)
          highest := Function.update b.highest key.source key.txId } = b' := by
  simp only [enter?, Option.ite_none_right_eq_some, Option.some.injEq, and_assoc]

theorem enter?_settle_eq_some :
    b.enter? (.settle key) = some b' ↔
      b.pending key ≠ none ∧ { b with pending := Function.update b.pending key none } = b' := by
  simp only [enter?, Option.ite_none_right_eq_some, Option.some.injEq]

/-- An entry concerns its own key only. -/
theorem pending_of_enter? (h : b.enter? e = some b') (hkey : e.key ≠ key) :
    b'.pending key = b.pending key := by
  cases e with
  | commit k marker =>
    obtain ⟨-, -, rfl⟩ := enter?_commit_eq_some.1 h
    exact Function.update_of_ne (Ne.symm hkey) _ _
  | settle k =>
    obtain ⟨-, rfl⟩ := enter?_settle_eq_some.1 h
    exact Function.update_of_ne (Ne.symm hkey) _ _

theorem Phase.committedOn?_eq_some {p : Phase} {source : UInt64} {id : TxId} :
    p.committedOn? source = some id ↔ p = .committed { source, txId := id } := by
  cases p with
  | committed key =>
    obtain ⟨s, t⟩ := key
    rw [committedOn?, Option.ite_none_right_eq_some, Option.some.injEq, committed.injEq,
      MarkerKey.mk.injEq]
  | settled key => exact ⟨nofun, nofun⟩

/-- An entry that commits an id moves its source chain on to it. -/
theorem highest_of_committedOn? {source : UInt64} {id : TxId} (h : b.enter? e = some b')
    (hid : e.phase.committedOn? source = some id) : b.highest source < id ∧ b'.highest source = id := by
  cases e with
  | commit k marker =>
    obtain rfl := Phase.committed.inj (Phase.committedOn?_eq_some.1 hid)
    obtain ⟨-, hfresh, rfl⟩ := enter?_commit_eq_some.1 h
    exact ⟨hfresh, Function.update_self _ _ _⟩
  | settle k => cases hid

/-- Any other entry leaves a source chain where it is. -/
theorem highest_of_enter? {source : UInt64} (h : b.enter? e = some b')
    (hother : e.phase.committedOn? source = none) : b'.highest source = b.highest source := by
  cases e with
  | commit k marker =>
    obtain ⟨-, -, rfl⟩ := enter?_commit_eq_some.1 h
    have hne : source ≠ k.source := by
      rintro rfl
      simp [Entry.phase, Phase.committedOn?] at hother
    exact Function.update_of_ne hne _ _
  | settle k =>
    obtain ⟨-, rfl⟩ := enter?_settle_eq_some.1 h
    rfl

/-! ## Lists of entries -/

@[simp] theorem enterAll?_nil : b.enterAll? [] = some b := rfl

theorem enterAll?_cons_eq_some :
    b.enterAll? (e :: entries) = some b' ↔ ∃ c, b.enter? e = some c ∧ c.enterAll? entries = some b' :=
  Option.bind_eq_some_iff

theorem enterAll?_append_eq_some {more : List Entry} :
    b.enterAll? (entries ++ more) = some b' ↔
      ∃ c, b.enterAll? entries = some c ∧ c.enterAll? more = some b' := by
  unfold enterAll?
  rw [List.foldlM_append]
  exact Option.bind_eq_some_iff

/-- What is pending under a key stays while no entry is about it. -/
theorem pending_of_enterAll? (h : b.enterAll? entries = some b') (hkey : ∀ e ∈ entries, e.key ≠ key) :
    b'.pending key = b.pending key := by
  induction entries generalizing b with
  | nil =>
    obtain rfl : b = b' := by simpa using h
    rfl
  | cons e rest ih =>
    obtain ⟨c, he, hrest⟩ := enterAll?_cons_eq_some.1 h
    rw [ih hrest fun d hd => hkey d (by simp [hd]), pending_of_enter? he (hkey e (by simp))]

/-- What is pending under a key stays until it is settled: a pending key is not committed again. -/
theorem pending_of_settled_notMem (h : b.enterAll? entries = some b')
    (hpending : b.pending key = some marker) (hopen : .settled key ∉ entries.map Entry.phase) :
    b'.pending key = some marker := by
  induction entries generalizing b with
  | nil =>
    obtain rfl : b = b' := by simpa using h
    exact hpending
  | cons e rest ih =>
    obtain ⟨c, he, hrest⟩ := enterAll?_cons_eq_some.1 h
    rw [List.map_cons, List.mem_cons, not_or] at hopen
    have hkey : e.key ≠ key := by
      rintro rfl
      cases e with
      | commit k other =>
        obtain ⟨habsent, -⟩ := enter?_commit_eq_some.1 he
        exact absurd (habsent.symm.trans hpending) (by simp)
      | settle k => exact hopen.1 rfl
    exact ih hrest ((pending_of_enter? he hkey).trans hpending) hopen.2

/-! ## How far a source chain comes -/

theorem mem_committedIds {phases : List Phase} {source : UInt64} {id : TxId} :
    id ∈ committedIds phases source ↔ .committed { source, txId := id } ∈ phases := by
  simp only [committedIds, List.mem_filterMap, Phase.committedOn?_eq_some, exists_eq_right]

/-- The ids that are committed on a source chain rise from where the chain was, and the last of them is
where it ends. -/
theorem ascent (h : b.enterAll? entries = some b') (source : UInt64) :
    (b.highest source :: committedIds (entries.map Entry.phase) source).Pairwise (· < ·) ∧
      b'.highest source = (b.highest source ::
        committedIds (entries.map Entry.phase) source).getLast (List.cons_ne_nil _ _) := by
  induction entries generalizing b with
  | nil =>
    obtain rfl : b = b' := by simpa using h
    exact ⟨List.pairwise_singleton _ _, rfl⟩
  | cons e rest ih =>
    obtain ⟨c, he, hrest⟩ := enterAll?_cons_eq_some.1 h
    obtain ⟨hrises, hlast⟩ := ih hrest
    rw [committedIds, List.map_cons]
    cases hid : e.phase.committedOn? source with
    | none =>
      simp only [List.filterMap_cons_none hid, ← highest_of_enter? he hid]
      exact ⟨hrises, hlast⟩
    | some id =>
      obtain ⟨hfresh, hnow⟩ := highest_of_committedOn? he hid
      simp only [hnow] at hrises hlast
      simp only [List.filterMap_cons_some hid]
      refine ⟨List.pairwise_cons.2 ⟨fun t ht => ?_, hrises⟩, hlast⟩
      rcases List.mem_cons.1 ht with rfl | ht
      · exact hfresh
      · exact BitVec.lt_trans hfresh (List.rel_of_pairwise_cons hrises ht)

theorem highest_mem (h : b.enterAll? entries = some b') (source : UInt64) :
    b'.highest source ∈ b.highest source :: committedIds (entries.map Entry.phase) source := by
  rw [(ascent h source).2]
  exact List.getLast_mem _

/-- No id that is committed is above where the source chain ends. -/
theorem le_highest (h : b.enterAll? entries = some b') {source : UInt64} {id : TxId}
    (hid : id ∈ b.highest source :: committedIds (entries.map Entry.phase) source) :
    id ≤ b'.highest source := by
  obtain ⟨hrises, hlast⟩ := ascent h source
  rw [hlast]
  exact (hrises.imp BitVec.le_of_lt).rel_getLast_of_rel_getLast_getLast hid (BitVec.le_refl _)

/-! ## At most one commit -/

/-- A key whose source chain has come as far as its id is never committed again. -/
theorem committed_notMem_of_le (h : b.enterAll? entries = some b')
    (hspent : key.txId ≤ b.highest key.source) :
    Phase.committed key ∉ entries.map Entry.phase := by
  intro hmem
  have hfresh := List.rel_of_pairwise_cons (ascent h key.source).1 (mem_committedIds.2 hmem)
  exact absurd hspent (BitVec.not_le.2 hfresh)

/-- Along every run a key is committed at most once. -/
theorem count_committed_le_one (h : b.enterAll? entries = some b') (key : MarkerKey) :
    (entries.map Entry.phase).count (.committed key) ≤ 1 := by
  induction entries generalizing b with
  | nil => simp
  | cons e rest ih =>
    obtain ⟨c, he, hrest⟩ := enterAll?_cons_eq_some.1 h
    rw [List.map_cons, List.count_cons]
    by_cases hphase : e.phase = .committed key
    · -- after this commit the chain has come as far as the key, so none follows
      have hspent : key.txId ≤ c.highest key.source := by
        cases e with
        | commit k marker =>
          obtain rfl : k = key := Phase.committed.inj hphase
          obtain ⟨-, -, rfl⟩ := enter?_commit_eq_some.1 he
          simp
        | settle k => cases hphase
      have hnone := List.count_eq_zero_of_not_mem (committed_notMem_of_le hrest hspent)
      rw [hnone]
      split <;> omega
    · simpa [hphase] using ih hrest

/-! ## What is pending -/

/-- How many deliveries of a key are pending, which is none or one. -/
def pendingCount (b : Book) (key : MarkerKey) : Nat := if b.pending key = none then 0 else 1

theorem pendingCount_of_enter? (h : b.enter? e = some b') (key : MarkerKey) :
    b'.pendingCount key + [e.phase].count (.settled key) =
      b.pendingCount key + [e.phase].count (.committed key) := by
  by_cases hkey : e.key = key
  · subst hkey
    cases e with
    | commit k marker =>
      obtain ⟨habsent, -, rfl⟩ := enter?_commit_eq_some.1 h
      have habsent' : b.pending (Entry.commit k marker).key = none := habsent
      simp [pendingCount, Entry.phase, Entry.key, habsent]
    | settle k =>
      obtain ⟨hpresent, rfl⟩ := enter?_settle_eq_some.1 h
      simp [pendingCount, Entry.phase, Entry.key, hpresent]
  · have hsame : b'.pendingCount key = b.pendingCount key := by
      unfold pendingCount
      rw [pending_of_enter? h hkey]
    cases e with
    | commit k marker =>
      have hk : k ≠ key := hkey
      simp [Entry.phase, hsame, hk]
    | settle k =>
      have hk : k ≠ key := hkey
      simp [Entry.phase, hsame, hk]

/-- The commits of a key are its settlements and what is pending in the end, apart from what was
pending at the start. -/
theorem balance (h : b.enterAll? entries = some b') (key : MarkerKey) :
    b'.pendingCount key + (entries.map Entry.phase).count (.settled key) =
      b.pendingCount key + (entries.map Entry.phase).count (.committed key) := by
  induction entries generalizing b with
  | nil =>
    obtain rfl : b = b' := by simpa using h
    simp
  | cons e rest ih =>
    obtain ⟨c, he, hrest⟩ := enterAll?_cons_eq_some.1 h
    have hone := pendingCount_of_enter? he key
    have hmany := ih hrest
    rw [List.map_cons, ← List.singleton_append, List.count_append, List.count_append]
    omega

/-- A key under which nothing is pending at the start is settled only after it was committed. -/
theorem settled_after_committed (h : b.enterAll? entries = some b') (habsent : b.pending key = none)
    {before after : List Phase} (hsplit : entries.map Entry.phase = before ++ .settled key :: after) :
    .committed key ∈ before := by
  obtain ⟨es, rest, rfl, rfl, hrest⟩ := List.map_eq_append_iff.1 hsplit
  obtain ⟨e, es', rfl, hphase, rfl⟩ := List.map_eq_cons_iff.1 hrest
  obtain ⟨c, hes, hrest⟩ := enterAll?_append_eq_some.1 h
  obtain ⟨d, he, -⟩ := enterAll?_cons_eq_some.1 hrest
  have hpresent : c.pending key ≠ none := by
    cases e with
    | commit k marker => cases hphase
    | settle k =>
      obtain rfl : k = key := Phase.settled.inj hphase
      exact (enter?_settle_eq_some.1 he).1
  have hbalance := balance hes key
  rw [pendingCount, pendingCount, if_neg hpresent, if_pos habsent] at hbalance
  exact List.count_pos_iff.1 (by omega)

/-- Along every run a key under which nothing is pending at the start is settled at most once. -/
theorem count_settled_le_one (h : b.enterAll? entries = some b') (habsent : b.pending key = none) :
    (entries.map Entry.phase).count (.settled key) ≤ 1 := by
  have hbalance := balance h key
  have hcommits := count_committed_le_one h key
  rw [pendingCount, pendingCount, if_pos habsent] at hbalance
  omega

end Book

end RelayGate
