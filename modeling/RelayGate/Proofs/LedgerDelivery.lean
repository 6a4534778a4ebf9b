import Mathlib.Data.List.Induction
import RelayGate.Proofs.LedgerRuns
import RelayGate.Proofs.MessageEncoding

/-!
# Deliveries of a ledger

What a ledger guarantees over whole runs: each delivery is committed and settled at most once and in
this order, and what is settled is what was committed.
-/

namespace RelayGate.Ledger

open Book (Entry Phase)

variable {l : Ledger} {steps : List Step} {m : Message} {signatures : List Signature} {verify : Verifier}
  {key : MarkerKey} {marker : Marker}

/-! ## At most once -/

/-- Nothing is settled under a key where nothing is pending. -/
theorem settle_isOk_of_absent (h : l.markers.get? m.key = none) (signatures : List Signature)
    (verify : Verifier) : (l.settle m signatures verify).2.outcome.isOk = false := by
  by_contra hok
  obtain ⟨marker, tally, hs, -, -⟩ := settle_of_isOk (Bool.not_eq_false _ ▸ hok)
  rw [hs.present] at h
  cases h

/-- Nothing is committed under a key where something is pending, whatever the message. -/
theorem commit_isOk_of_pending (h : l.markers.get? m.key ≠ none) (signatures : List Signature)
    (bump : UInt8) : (l.commit m signatures bump).2.outcome.isOk = false := by
  by_contra hok
  obtain ⟨hc, -, -⟩ := commit_of_isOk (Bool.not_eq_false _ ▸ hok)
  exact h hc.absent

/-- In every run of a ledger that starts without markers, a key is committed at most once and settled
at most once, and settled only after it was committed. In no state is a key settled where nothing is
pending, or committed where something is. -/
theorem each_delivery_at_most_once (hempty : l.markers = Table.empty)
    (hs : ∀ s ∈ steps, s.forces = false) (key : MarkerKey) :
    (l.history steps).count (.committed key) ≤ 1 ∧
      (l.history steps).count (.settled key) ≤ 1 ∧
      (∀ before after, l.history steps = before ++ .settled key :: after →
        .committed key ∈ before) ∧
      ∀ (now : Ledger) (m : Message), m.key = key →
        (now.markers.get? key = none → ∀ signatures verify,
          (now.step (.settle m signatures verify)).2.outcome.isOk = false) ∧
        (now.markers.get? key ≠ none → ∀ signatures bump,
          (now.step (.commit m signatures bump)).2.outcome.isOk = false) := by
  have hrun := book_run (l := l) hs
  have habsent : l.book.pending key = none := by
    rw [book, hempty]
    rfl
  refine ⟨Book.count_committed_le_one hrun key, Book.count_settled_le_one hrun habsent, ?_, ?_⟩
  · intro before after hsplit
    exact Book.settled_after_committed hrun habsent hsplit
  · rintro now m rfl
    exact ⟨settle_isOk_of_absent, commit_isOk_of_pending⟩

/-- A ledger of one signer in the Via layer and another one in the Chain layer. -/
def exampleLedger : Ledger where
  gateway := { authority := .filled 32 42, chain := 2, enabled := true, bump := 255 }
  via :=
    { layer := .via, authority := .filled 32 42, signers := [.filled 32 1], threshold := 1,
      chain := 43113, enabled := true, bump := 254 }
  chain :=
    { layer := .chain, authority := .filled 32 42, signers := [.filled 32 2], threshold := 1,
      chain := 43113, enabled := true, bump := 254 }
  project := none
  markers := .empty
  counters := .empty

/-- A message for the gateway of `exampleLedger`. -/
def exampleMessage : Message where
  txId := 1
  source := 43113
  destination := 2
  sender := [0x61, 0x76, 0x61, 0x78]
  recipient := List.replicate 32 7
  onChainData := [0x68, 0x65, 0x6c, 0x6c, 0x6f]
  offChainData := []

/-- The signatures of both signers. -/
def exampleSignatures : List Signature :=
  [⟨.filled 32 1, .filled 64 3⟩, ⟨.filled 32 2, .filled 64 4⟩]

/-- A commit, and then a commit with other data, a settlement without signatures and a change of a
registry. -/
def exampleTrials : List Step :=
  [.commit exampleMessage exampleSignatures 255,
    .commit { exampleMessage with onChainData := [1] } exampleSignatures 255,
    .settle exampleMessage [] fun _ _ => true, .changeRegistry .via (.addSigner (.filled 32 9))]

/-- A settlement, and then both phases once more. -/
def exampleReplay : List Step :=
  [.settle exampleMessage exampleSignatures fun _ _ => true,
    .commit exampleMessage exampleSignatures 255,
    .settle exampleMessage exampleSignatures fun _ _ => true]

theorem each_delivery_at_most_once_replayed :
    exampleLedger.markers = Table.empty ∧
      (∀ s ∈ exampleTrials ++ exampleReplay, s.forces = false) ∧
      exampleLedger.history (exampleTrials ++ exampleReplay) =
        [.committed exampleMessage.key, .settled exampleMessage.key] ∧
      (exampleLedger.history (exampleTrials ++ exampleReplay)).count
        (.committed exampleMessage.key) ≤ 1 := by
  have hs : ∀ s ∈ exampleTrials ++ exampleReplay, s.forces = false := by decide
  exact ⟨rfl, hs, by decide +kernel, (each_delivery_at_most_once rfl hs exampleMessage.key).1⟩

/-! ## What is settled was committed -/

/-- What is pending after a run was committed in it, under its own key, and no entry of the rest of
the run is about that key. -/
theorem exists_commit_of_pending (habsent : l.markers.get? key = none)
    (hs : ∀ s ∈ steps, s.forces = false)
    (hpending : (l.run steps).1.markers.get? key = some marker) :
    ∃ before m signatures bump between,
      steps = before ++ .commit m signatures bump :: between ∧ m.key = key ∧
        Delivery.markerOf m bump = marker ∧
        ((l.run before).1.commit m signatures bump).2.outcome.isOk = true ∧
        ∀ e ∈ ((l.run before).1.commit m signatures bump).1.entries between, e.key ≠ key := by
  induction steps using List.reverseRecOn generalizing marker with
  | nil =>
    rw [run_nil, habsent] at hpending
    cases hpending
  | append_singleton init s ih =>
    have hinit : ∀ t ∈ init, t.forces = false := fun t ht => hs t (by simp [ht])
    rw [run_append] at hpending
    have hstep := book_step (l := (l.run init).1) (hs s (by simp))
    generalize hentry : s.entry? ((l.run init).1.step s).2 = entry at hstep
    by_cases hother : ∀ e ∈ entry.toList, e.key ≠ key
    · -- the last step leaves the key alone, so the commit is in the part before it
      have hsame := Book.pending_of_enterAll? hstep hother
      obtain ⟨before, m, signatures, bump, between, rfl, hkey, hmarker, hok, hbetween⟩ :=
        ih hinit (hsame.symm.trans hpending)
      refine ⟨before, m, signatures, bump, between ++ [s], by simp, hkey, hmarker, hok, ?_⟩
      intro e he
      rw [entries_append, List.mem_append, entries_cons, entries_nil, List.append_nil] at he
      rcases he with he | he
      · exact hbetween e he
      · rw [run_append] at hentry
        exact hother e (hentry ▸ he)
    · -- the last step is about the key, and leaves it pending: it is the commit
      push Not at hother
      obtain ⟨e, he, hkey⟩ := hother
      obtain rfl : entry = some e := Option.mem_toList.1 he
      obtain ⟨b, henter, hb⟩ := Book.enterAll?_cons_eq_some.1 hstep
      obtain rfl : b = _ := Option.some.inj hb
      cases e with
      | commit k marker' =>
        obtain rfl : k = key := hkey
        obtain ⟨-, -, hbook⟩ := Book.enter?_commit_eq_some.1 henter
        have hmarker := (congrFun (congrArg Book.pending hbook) k).trans hpending
        simp only [Function.update_self, Option.some.injEq] at hmarker
        obtain ⟨m, signatures, bump, rfl, hok, hmkey, rfl⟩ := Step.entry?_eq_commit hentry
        exact ⟨init, m, signatures, bump, [], rfl, hmkey, hmarker, hok, by simp⟩
      | settle k =>
        obtain rfl : k = key := hkey
        obtain ⟨-, hbook⟩ := Book.enter?_settle_eq_some.1 henter
        have hnone := congrFun (congrArg Book.pending hbook) k
        simp only [Function.update_self] at hnone
        exact absurd (hnone.trans hpending) (by simp)

/-- In a run of these steps a message with the digest `d` was committed under the key of `m`, and from
there on nothing happened to that key: no commit and no settlement of it succeeded, and the marker of
that commit is what is pending after each further step. If the committed message is not `m` itself,
the encodings of the two are different byte strings with one hash. -/
def CommittedUntouched (l : Ledger) (steps : List Step) (m : Message) (d : Digest) : Prop :=
  ∃ before m₀ signatures₀ bump between marker,
    steps = before ++ .commit m₀ signatures₀ bump :: between ∧ m₀.key = m.key ∧
      ((l.run before).1.step (.commit m₀ signatures₀ bump)).2.outcome = .ok (.committed marker) ∧
      m₀.digest.outcome = .ok d ∧ marker.digest = d ∧
      (∀ phase ∈ ((l.run before).1.step (.commit m₀ signatures₀ bump)).1.history between,
        phase ≠ .committed m.key ∧ phase ≠ .settled m.key) ∧
      (∀ part rest, between = part ++ rest →
        (l.run (before ++ .commit m₀ signatures₀ bump :: part)).1.markers.get? m.key = some marker) ∧
      (m₀ = m ∨ m₀.encode ≠ m.encode ∧ Keccak.hash m₀.encode = Keccak.hash m.encode)

/-- Whatever is settled in a run of a ledger that starts without markers was committed in that run,
and not touched since: its own digest is the one that is reported and the one that was committed. -/
theorem settled_is_committed (hempty : l.markers = Table.empty) (hs : ∀ s ∈ steps, s.forces = false)
    {answer : Answer}
    (hok : ((l.run steps).1.step (.settle m signatures verify)).2.outcome = .ok answer) :
    ∃ settlement, answer = .settled settlement ∧ m.digest.outcome = .ok settlement.digest ∧
      l.CommittedUntouched steps m settlement.digest := by
  have hisOk : ((l.run steps).1.settle m signatures verify).2.outcome.isOk = true := by
    rw [show (l.run steps).1.settle m signatures verify = (l.run steps).1.step
      (.settle m signatures verify) from rfl, hok]
    rfl
  obtain ⟨marker, tally, hsettle, hanswer, -⟩ := settle_of_isOk hisOk
  obtain rfl : answer = .settled { digest := m.hash, tally } :=
    Except.ok.inj (hok.symm.trans hanswer)
  have habsent : l.markers.get? m.key = none := by
    rw [hempty]
    rfl
  obtain ⟨before, m₀, signatures₀, bump, between, rfl, hkey, rfl, hcommit, hbetween⟩ :=
    exists_commit_of_pending habsent hs hsettle.present
  obtain ⟨hc, hcanswer, hcstate⟩ := commit_of_isOk hcommit
  have hhash : m₀.hash = m.hash := hsettle.digest_eq
  refine ⟨_, rfl, Message.outcome_digest_eq_ok.2 ⟨hsettle.limits, rfl⟩, ?_⟩
  refine ⟨before, m₀, signatures₀, bump, between, Delivery.markerOf m₀ bump, rfl, hkey, hcanswer,
    Message.outcome_digest_eq_ok.2 ⟨hc.limits, hhash⟩, hhash, ?_, ?_, ?_⟩
  · intro phase hphase
    obtain ⟨e, he, rfl⟩ := List.mem_map.1 hphase
    have hother := hbetween e he
    cases e with
    | commit k marker => exact ⟨fun h => hother (Phase.committed.inj h), nofun⟩
    | settle k => exact ⟨nofun, fun h => hother (Phase.settled.inj h)⟩
  · -- the entries of a part of the steps in between are entries of all of them
    rintro part rest rfl
    have hpart : ∀ s ∈ part, s.forces = false := fun s h => hs s (by simp [h])
    have hother : ∀ e ∈ ((l.run before).1.commit m₀ signatures₀ bump).1.entries part,
        e.key ≠ m.key := by
      intro e he
      exact hbetween e (by rw [entries_append]; exact List.mem_append_left _ he)
    rw [run_append, run_cons]
    refine (get?_run_of_others hpart hother).trans ?_
    rw [hcstate, ← hkey]
    exact Table.get?_insert_self _ _ _
  · exact Message.eq_or_collision_of_hash_eq hc.limits hsettle.limits hhash

theorem settled_is_committed_after_trials :
    (∀ s ∈ exampleTrials, s.forces = false) ∧
      ((exampleLedger.run exampleTrials).1.step
          (.settle exampleMessage exampleSignatures fun _ _ => true)).2.outcome =
        .ok (.settled { digest := exampleMessage.hash, tally := ⟨1, 1, 0, 2⟩ }) ∧
      exampleLedger.CommittedUntouched exampleTrials exampleMessage exampleMessage.hash := by
  have hs : ∀ s ∈ exampleTrials, s.forces = false := by decide
  have hok : ((exampleLedger.run exampleTrials).1.step
      (.settle exampleMessage exampleSignatures fun _ _ => true)).2.outcome =
        .ok (.settled { digest := exampleMessage.hash, tally := ⟨1, 1, 0, 2⟩ }) := by
    decide +kernel
  obtain ⟨settlement, hanswer, -, hcommitted⟩ := settled_is_committed rfl hs hok
  obtain rfl := Answer.settled.inj hanswer
  exact ⟨hs, hok, hcommitted⟩

end RelayGate.Ledger
