import RelayGate.Proofs.Authority

/-!
# The emergency stop

A gateway that is stopped lets nothing pass. The accounts of a call cannot get around it: a message has
to go through the gateway of its own destination, which is one record (`Effect.open_of_needs`), and other
gateways may be open or not. The gateway stays as it is, through all that anybody does, until its
authority starts it again (`Store.stopped_until_started`).
-/

namespace RelayGate

variable {scheme : AddressScheme} {inv : Invocation} {store : Store} {call : Call} {chain : UInt64}
  {g : Gateway} {records records' : RecordKey → Option StoredRecord} {t : Transaction}

/-- A call needs the gateway of a chain: it delivers a message to this chain, through whatever gateway it
names, or it names this gateway where it takes one. -/
def Call.Needs (scheme : AddressScheme) (inv : Invocation) (chain : UInt64) : Call → Prop
  | commit m _ => m.destination = chain
  | settle m _ => m.destination = chain
  | request .. => inv.Names scheme 0 (.gateway chain)
  | createCounter _ => inv.Names scheme 2 (.gateway chain)
  | _ => False

/-- A call succeeds only while the gateway that it needs is open. -/
theorem Effect.open_of_needs (hs : scheme.Separates)
    (h : Effect scheme inv store records call records') (hneeds : call.Needs scheme inv chain) :
    ∃ g, records (.gateway chain) = some (.gateway g) ∧ g.enabled = true := by
  cases h with
  | createCounter hsource hnew hfound hnamed henabled hsigned =>
    rw [hneeds.key_eq hs hnamed] at hfound
    exact ⟨_, hfound, henabled⟩
  | request hfound hnamed henabled =>
    rw [hneeds.key_eq hs hnamed] at hfound
    exact ⟨_, hfound, henabled⟩
  | commit hfound henabled habsent hcounter hfresh =>
    obtain rfl := hneeds
    exact ⟨_, hfound, henabled⟩
  | settle hfound henabled hpresent =>
    obtain rfl := hneeds
    exact ⟨_, hfound, henabled⟩
  | _ => exact hneeds.elim

namespace Transaction

/-- A transaction starts the gateway of a chain on behalf of a key. -/
structure Starts (scheme : AddressScheme) (t : Transaction) (store : Store) (chain : UInt64)
    (authority : Key) : Prop where
  completes : t.Completes scheme store (.switchGateway true)
  named : t.call.Names scheme 0 (.gateway chain)
  signed : t.call.signs authority = true

/-- A stopped gateway stays the same unless its authority starts it. -/
theorem stopped_apply (hs : scheme.Separates) (ho : Ordered scheme store.slots)
    (hfound : recordOf scheme store.slots (.gateway chain) = some (.gateway g))
    (hstopped : g.enabled = false) (t : Transaction) :
    t.Starts scheme store chain g.authority ∨
      recordOf scheme (t.apply scheme store).slots (.gateway chain) = some (.gateway g) := by
  rcases t.effect_apply hs ho with ⟨call, events, hcompletion, heffect⟩ | ⟨-, hsame⟩
  · rcases heffect.gateway_cases chain with
      hsame | ⟨-, -, hnone, -⟩ | ⟨g', enabled, rfl, hfound', hnamed, hsigned, hswitched⟩
    · exact .inr (hsame.trans hfound)
    · cases hfound.symm.trans hnone
    · obtain rfl := StoredRecord.gateway.inj (Option.some.inj (hfound.symm.trans hfound'))
      cases enabled with
      | true => exact .inl ⟨⟨events, hcompletion⟩, hnamed, hsigned⟩
      | false =>
        -- switched off once more
        rw [← hstopped] at hswitched
        exact .inr hswitched
  · exact .inr (by rw [hsame, hfound])

/-- No call that needs a stopped gateway succeeds. -/
theorem refused_of_stopped (hs : scheme.Separates) (ho : Ordered scheme store.slots)
    (hfound : recordOf scheme store.slots (.gateway chain) = some (.gateway g))
    (hstopped : g.enabled = false) (hcall : Call.ofData? t.call.data = some call)
    (hneeds : call.Needs scheme t.call chain) :
    (t.execute scheme store).outcome.isOk = false := by
  rw [← Bool.not_eq_true]
  intro hok
  obtain ⟨out, hout⟩ := isOk_eq_true.1 hok
  obtain ⟨g', hfound', henabled⟩ := (t.effect_of_ok hs ho hcall hout).open_of_needs hs hneeds
  obtain rfl := StoredRecord.gateway.inj (Option.some.inj (hfound.symm.trans hfound'))
  rw [hstopped] at henabled
  cases henabled

end Transaction

namespace Store

theorem stopped_after (hs : scheme.Separates) (hreach : Reachable scheme store)
    (hfound : recordOf scheme store.slots (.gateway chain) = some (.gateway g))
    (hstopped : g.enabled = false) (ts : List Transaction) :
    (∃ before t after, ts = before ++ t :: after ∧
        t.Starts scheme (store.after scheme before) chain g.authority) ∨
      recordOf scheme (store.after scheme ts).slots (.gateway chain) = some (.gateway g) := by
  induction ts generalizing store with
  | nil => exact .inr hfound
  | cons t rest ih =>
    rcases t.stopped_apply hs hreach.ordered hfound hstopped with hstarts | hsame
    · exact .inl ⟨[], t, rest, rfl, hstarts⟩
    · rcases ih (hreach.step t) hsame with ⟨before, t', after, rfl, hstarts⟩ | hstays
      · exact .inl ⟨t :: before, t', after, rfl, hstarts⟩
      · exact .inr hstays

/-- In every store that transactions lead to, and after every run that goes on from there, a gateway that
was stopped is still the same, and no call that needs it succeeds, unless in this run its authority
started it. Addresses are to separate records at every bump, so that no other gateway passes for it. -/
theorem stopped_until_started (hs : scheme.Separates) (hreach : Reachable scheme store)
    (hfound : recordOf scheme store.slots (.gateway chain) = some (.gateway g))
    (hstopped : g.enabled = false) (ts : List Transaction) :
    (∃ before t after, ts = before ++ t :: after ∧
        t.Starts scheme (store.after scheme before) chain g.authority) ∨
      recordOf scheme (store.after scheme ts).slots (.gateway chain) = some (.gateway g) ∧
        ∀ (t : Transaction) (call : Call), Call.ofData? t.call.data = some call →
          call.Needs scheme t.call chain →
            (t.execute scheme (store.after scheme ts)).outcome.isOk = false := by
  rcases stopped_after hs hreach hfound hstopped ts with hstarts | hstays
  · exact .inl hstarts
  · refine .inr ⟨hstays, fun t call hcall hneeds => ?_⟩
    exact Transaction.refused_of_stopped hs (hreach.after ts).ordered hstays hstopped hcall hneeds

/-- The store of the example when its gateway is set up and stopped. -/
def exampleStopped : Store := exampleStore.after exampleScheme (exampleSetup ++ [exampleStop])

theorem stopped_until_started_in_example :
    exampleScheme.Separates ∧ Reachable exampleScheme exampleStopped ∧
      (∃ g, recordOf exampleScheme exampleStopped.slots (.gateway 2) = some (.gateway g) ∧
        g.enabled = false) ∧
      (exampleCommit.execute exampleScheme
        (exampleStopped.after exampleScheme [exampleCommit])).outcome.isOk = false := by
  have hreach : Reachable exampleScheme exampleStopped :=
    (Reachable.start unowned_exampleStore).after _
  have hfound : recordOf exampleScheme exampleStopped.slots (.gateway 2) =
      some (.gateway { authority := .filled 32 42, chain := 2, enabled := false, bump := 254 }) := by
    decide +kernel
  have hcall : Call.ofData? exampleCommit.call.data =
      some (.commit Ledger.exampleMessage Ledger.exampleSignatures) := by
    decide +kernel
  have hrefused : exampleCommit.completion? exampleScheme exampleStopped = none := by
    decide +kernel
  have hneeds : (Call.commit Ledger.exampleMessage Ledger.exampleSignatures).Needs exampleScheme
      exampleCommit.call 2 :=
    (rfl : Ledger.exampleMessage.destination = 2)
  refine ⟨exampleScheme_separates, hreach, ⟨_, hfound, rfl⟩, ?_⟩
  rcases stopped_until_started exampleScheme_separates hreach hfound rfl [exampleCommit] with
    ⟨before, t, after, hsplit, hstarts⟩ | ⟨-, hfails⟩
  · -- the run is a single commit, which is refused
    obtain ⟨rfl, rfl, rfl⟩ : before = [] ∧ t = exampleCommit ∧ after = [] := by
      cases before with
      | nil => simpa [eq_comm] using hsplit
      | cons first others => simp at hsplit
    obtain ⟨events, hcompletion⟩ := hstarts.completes
    rw [Store.after, List.foldl_nil] at hcompletion
    cases hrefused.symm.trans hcompletion
  · exact hfails exampleCommit _ hcall hneeds

end Store

end RelayGate
