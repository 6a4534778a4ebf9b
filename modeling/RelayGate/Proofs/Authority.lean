import RelayGate.Proofs.RecordEffects
import RelayGate.Proofs.StoreDelivery

/-!
# Who changes what

A call changes one record of each kind at most, and for each kind there are two calls that do: one that
makes records and one that changes them. So what is read off `Effect` here, once for each kind, says of
every change of a record which call made it and who signed it. Along a run this bounds what anybody can
do (`Store.changes_are_authorized`): whatever accounts are named, nobody but its authority switches a
gateway or changes a registry, and nothing is made a second time. The right to make gateways may pass from
one key to another in between: it is that of whoever may replace the gate's program when the call runs.
-/

namespace RelayGate

variable {scheme : AddressScheme} {inv : Invocation} {store : Store} {call : Call}
  {records records' : RecordKey → Option StoredRecord} {key : RecordKey} {t : Transaction}

/-! ## What calls do to one record -/

namespace Effect

/-- A call leaves the gateway of a chain alone, makes it, or switches it. -/
theorem gateway_cases (h : Effect scheme inv store records call records') (chain : UInt64) :
    records' (.gateway chain) = records (.gateway chain) ∨
      (∃ g : Gateway, call = .createGateway chain ∧ records (.gateway chain) = none ∧
        inv.signs g.authority = true ∧ store.Replacer g.authority ∧
        records' (.gateway chain) = some (.gateway g)) ∨
      ∃ (g : Gateway) (enabled : Bool), call = .switchGateway enabled ∧
        records (.gateway chain) = some (.gateway g) ∧ inv.Names scheme 0 (.gateway chain) ∧
        inv.signs g.authority = true ∧
        records' (.gateway chain) = some (.gateway { g with enabled }) := by
  cases h with
  | @createGateway made authority bump hchain hnew hsigned hreplacer =>
    by_cases hmade : chain = made
    · subst hmade
      exact .inr (.inl ⟨_, rfl, hnew, hsigned, hreplacer, Function.update_self _ _ _⟩)
    · exact .inl (Function.update_of_ne (by simpa using hmade) _ _)
  | @switchGateway enabled g hfound hnamed hsigned =>
    by_cases hswitched : chain = g.chain
    · subst hswitched
      exact .inr (.inr ⟨g, enabled, rfl, hfound, hnamed, hsigned, Function.update_self _ _ _⟩)
    · exact .inl (Function.update_of_ne (by simpa using hswitched) _ _)
  | request => exact .inl rfl
  | commit =>
    left
    rw [Function.update_of_ne (by simp), Function.update_of_ne (by simp)]
  | _ => exact .inl (Function.update_of_ne (by simp) _ _)

/-- A call leaves the registry of a layer and a chain alone, makes it, or changes it. -/
theorem registry_cases (h : Effect scheme inv store records call records') (layer : Layer)
    (chain : UInt64) :
    records' (.registry layer chain) = records (.registry layer chain) ∨
      (∃ signers threshold, call = .createRegistry layer chain signers threshold ∧
        records (.registry layer chain) = none) ∨
      ∃ r r' change, call = .changeRegistry layer chain change ∧
        records (.registry layer chain) = some (.registry r) ∧ inv.signs r.authority = true ∧
        r.apply change = .ok r' ∧ records' (.registry layer chain) = some (.registry r') := by
  cases h with
  | @createRegistry layer' chain' signers threshold bump g r hnew hfound hsigned hr =>
    by_cases hmade : RecordKey.registry layer chain = .registry layer' chain'
    · obtain ⟨rfl, rfl⟩ := RecordKey.registry.inj hmade
      exact .inr (.inl ⟨signers, threshold, rfl, hnew⟩)
    · exact .inl (Function.update_of_ne hmade _ _)
  | @changeRegistry layer' chain' change r r' hfound hsigned hchange =>
    by_cases hchanged : RecordKey.registry layer chain = .registry layer' chain'
    · obtain ⟨rfl, rfl⟩ := RecordKey.registry.inj hchanged
      exact .inr (.inr ⟨r, r', change, rfl, hfound, hsigned, hchange, Function.update_self _ _ _⟩)
    · exact .inl (Function.update_of_ne hchanged _ _)
  | request => exact .inl rfl
  | commit =>
    left
    rw [Function.update_of_ne (by simp), Function.update_of_ne (by simp)]
  | _ => exact .inl (Function.update_of_ne (by simp) _ _)

/-- A call leaves the counter of a source chain alone, makes it, or is a commit from this chain. -/
theorem counter_cases (h : Effect scheme inv store records call records') (source : UInt64) :
    records' (.counter source) = records (.counter source) ∨
      (call = .createCounter source ∧ records (.counter source) = none) ∨
      ∃ m signatures, call = .commit m signatures ∧ m.source = source := by
  cases h with
  | @createCounter made bump g hsource hnew hfound hnamed henabled hsigned =>
    by_cases hmade : source = made
    · subst hmade
      exact .inr (.inl ⟨rfl, hnew⟩)
    · exact .inl (Function.update_of_ne (by simpa using hmade) _ _)
  | @commit m signatures g c bump hfound henabled habsent hcounter hfresh =>
    by_cases hmoved : source = m.source
    · exact .inr (.inr ⟨m, signatures, rfl, hmoved.symm⟩)
    · left
      rw [Function.update_of_ne (by simpa using hmoved), Function.update_of_ne (by simp)]
  | request => exact .inl rfl
  | _ => exact .inl (Function.update_of_ne (by simp) _ _)

end Effect

/-- The record that a call makes for good. -/
def Call.makes? : Call → Option RecordKey
  | .createGateway chain => some (.gateway chain)
  | .createCounter source => some (.counter source)
  | .createRegistry layer chain _ _ => some (.registry layer chain)
  | _ => none

/-- Nothing is made where there is a record, with whatever arguments. -/
theorem Effect.made_once (h : Effect scheme inv store records call records')
    (hmakes : call.makes? = some key) : records key = none := by
  cases h with
  | createGateway hchain hnew => exact Option.some.inj hmakes ▸ hnew
  | createCounter hsource hnew => exact Option.some.inj hmakes ▸ hnew
  | createRegistry hnew => exact Option.some.inj hmakes ▸ hnew
  | _ => cases hmakes

/-! ## Transactions -/

/-- A transaction runs a call that succeeds. -/
def Transaction.Completes (scheme : AddressScheme) (t : Transaction) (store : Store) (call : Call) :
    Prop :=
  ∃ events, t.completion? scheme store = some (call, events)

/-- A record that is not the same after a transaction was changed by the call that it completes. -/
theorem Transaction.effect_of_ne (hs : scheme.Separates) (ho : Ordered scheme store.slots)
    (h : recordOf scheme (t.apply scheme store).slots key ≠ recordOf scheme store.slots key) :
    ∃ call, t.Completes scheme store call ∧
      Effect scheme t.call (t.await store) (recordOf scheme store.slots) call
        (recordOf scheme (t.apply scheme store).slots) := by
  rcases t.effect_apply hs ho with ⟨call, events, hcompletion, heffect⟩ | ⟨-, hsame⟩
  · exact ⟨call, ⟨events, hcompletion⟩, heffect⟩
  · exact absurd (congrFun hsame key) h

/-- A request changes nothing, whether it succeeds or not. -/
theorem Transaction.apply_request {txId : TxId} {recipient data : Bytes} {destination : UInt64}
    {confirmations : UInt16}
    (hcall : Call.ofData? t.call.data =
      some (.request txId recipient destination data confirmations)) :
    t.apply scheme store = t.expose store := by
  rcases t.completion?_cases scheme store with ⟨call, out, -, hcall', hrun, -, happly⟩ | ⟨-, happly⟩
  · obtain rfl := Option.some.inj (hcall.symm.trans hcall')
    obtain ⟨-, -, -, -, -, -, -, hstore, -⟩ := Program.request_ok hrun
    rw [happly, hstore]
  · exact happly

/-- What a transaction that starts in a store may do to records, and on whose behalf. -/
structure Governed (scheme : AddressScheme) (t : Transaction) (store : Store) : Prop where
  /-- A gateway is made for the key that may then replace the gate's program, which signs. -/
  gateway_made : ∀ chain g, recordOf scheme store.slots (.gateway chain) = none →
    recordOf scheme (t.apply scheme store).slots (.gateway chain) = some (.gateway g) →
      t.Completes scheme store (.createGateway chain) ∧ t.call.signs g.authority = true ∧
        (t.await store).Replacer g.authority
  /-- Nothing is made over a record. -/
  made_once : ∀ call key, t.Completes scheme store call → call.makes? = some key →
    recordOf scheme store.slots key = none
  /-- All records but markers stay, and what they are about and whom they belong to stays. -/
  continued : ∀ key r, (∀ k, key ≠ .marker k) → recordOf scheme store.slots key = some r →
    ∃ r', recordOf scheme (t.apply scheme store).slots key = some r' ∧ r.Continues r'
  /-- A gateway is switched by its authority. -/
  gateway_switched : ∀ chain g g', recordOf scheme store.slots (.gateway chain) = some (.gateway g) →
    recordOf scheme (t.apply scheme store).slots (.gateway chain) = some (.gateway g') →
      g'.enabled ≠ g.enabled →
        t.Completes scheme store (.switchGateway g'.enabled) ∧
          t.call.Names scheme 0 (.gateway chain) ∧ t.call.signs g.authority = true
  /-- A registry is changed by a call for its layer and chain that its authority signs. -/
  registry_changed : ∀ layer chain r r',
    recordOf scheme store.slots (.registry layer chain) = some (.registry r) →
      recordOf scheme (t.apply scheme store).slots (.registry layer chain) = some (.registry r') →
        r' ≠ r →
          ∃ change, t.Completes scheme store (.changeRegistry layer chain change) ∧
            r.apply change = .ok r' ∧ t.call.signs r.authority = true
  /-- A counter is moved by a commit from its source chain. -/
  counter_moved : ∀ source c c', recordOf scheme store.slots (.counter source) = some (.counter c) →
    recordOf scheme (t.apply scheme store).slots (.counter source) = some (.counter c') →
      c'.highest ≠ c.highest →
        ∃ m signatures, m.source = source ∧ t.Completes scheme store (.commit m signatures)
  /-- A request itself changes nothing, like a call that fails. -/
  request_inert : ∀ txId recipient destination data confirmations,
    Call.ofData? t.call.data = some (.request txId recipient destination data confirmations) →
      t.apply scheme store = t.expose store

namespace Transaction

theorem continued_apply (hs : scheme.Separates) (ho : Ordered scheme store.slots) {r : StoredRecord}
    (hkey : ∀ k, key ≠ .marker k) (hfound : recordOf scheme store.slots key = some r) :
    ∃ r', recordOf scheme (t.apply scheme store).slots key = some r' ∧ r.Continues r' := by
  rcases t.effect_apply hs ho with ⟨call, events, -, heffect⟩ | ⟨-, hsame⟩
  · exact heffect.continues hkey hfound
  · exact ⟨r, by rw [hsame, hfound], .refl r⟩

/-- Every transaction is governed where records are in order. -/
theorem governed (hs : scheme.Separates) (ho : Ordered scheme store.slots) (t : Transaction) :
    Governed scheme t store where
  gateway_made := by
    intro chain g hnone hsome
    obtain ⟨call, hcompletes, heffect⟩ := t.effect_of_ne hs ho (by rw [hsome, hnone]; simp)
    rcases heffect.gateway_cases chain with
      hsame | ⟨g', rfl, -, hsigned, hreplacer, hmade⟩ | ⟨g', enabled, -, hfound, -⟩
    · rw [hsome, hnone] at hsame
      cases hsame
    · obtain rfl := StoredRecord.gateway.inj (Option.some.inj (hsome.symm.trans hmade))
      exact ⟨hcompletes, hsigned, hreplacer⟩
    · cases hnone.symm.trans hfound
  made_once := by
    rintro call key ⟨events, hcompletion⟩ hmakes
    rcases t.effect_apply hs ho with ⟨call', events', hcompletion', heffect⟩ | ⟨hnone, -⟩
    · obtain ⟨rfl, -⟩ := Prod.mk.inj (Option.some.inj (hcompletion.symm.trans hcompletion'))
      exact heffect.made_once hmakes
    · cases hcompletion.symm.trans hnone
  continued := fun key r hkey hfound => continued_apply hs ho hkey hfound
  gateway_switched := by
    intro chain g g' hbefore hafter hswitched
    have hne : g' ≠ g := by
      rintro rfl
      exact hswitched rfl
    obtain ⟨call, hcompletes, heffect⟩ := t.effect_of_ne hs ho (by rw [hafter, hbefore]; simpa using hne)
    rcases heffect.gateway_cases chain with
      hsame | ⟨-, -, hnone, -⟩ | ⟨g'', enabled, rfl, hfound, hnamed, hsigned, hmade⟩
    · rw [hafter, hbefore] at hsame
      exact absurd (StoredRecord.gateway.inj (Option.some.inj hsame)) hne
    · cases hbefore.symm.trans hnone
    · obtain rfl := StoredRecord.gateway.inj (Option.some.inj (hbefore.symm.trans hfound))
      obtain rfl := StoredRecord.gateway.inj (Option.some.inj (hafter.symm.trans hmade))
      exact ⟨hcompletes, hnamed, hsigned⟩
  registry_changed := by
    intro layer chain r r' hbefore hafter hne
    obtain ⟨call, hcompletes, heffect⟩ := t.effect_of_ne hs ho (by rw [hafter, hbefore]; simpa using hne)
    rcases heffect.registry_cases layer chain with
      hsame | ⟨-, -, -, hnone⟩ | ⟨r₁, r₂, change, rfl, hfound, hsigned, hchange, hmade⟩
    · rw [hafter, hbefore] at hsame
      exact absurd (StoredRecord.registry.inj (Option.some.inj hsame)) hne
    · cases hbefore.symm.trans hnone
    · obtain rfl := StoredRecord.registry.inj (Option.some.inj (hbefore.symm.trans hfound))
      obtain rfl := StoredRecord.registry.inj (Option.some.inj (hafter.symm.trans hmade))
      exact ⟨change, hcompletes, hchange, hsigned⟩
  counter_moved := by
    intro source c c' hbefore hafter hmoved
    have hne : c' ≠ c := by
      rintro rfl
      exact hmoved rfl
    obtain ⟨call, hcompletes, heffect⟩ := t.effect_of_ne hs ho (by rw [hafter, hbefore]; simpa using hne)
    rcases heffect.counter_cases source with hsame | ⟨-, hnone⟩ | ⟨m, signatures, rfl, hsource⟩
    · rw [hafter, hbefore] at hsame
      exact absurd (StoredRecord.counter.inj (Option.some.inj hsame)) hne
    · cases hbefore.symm.trans hnone
    · exact ⟨m, signatures, hsource, hcompletes⟩
  request_inert := fun _ _ _ _ _ => apply_request

end Transaction

/-! ## Runs -/

namespace Store

theorem after_append (store : Store) (before rest : List Transaction) :
    store.after scheme (before ++ rest) = (store.after scheme before).after scheme rest :=
  List.foldl_append

/-- All records but markers go on along a run. -/
theorem continued_after (hs : scheme.Separates) (hreach : Reachable scheme store) {r : StoredRecord}
    (hkey : ∀ k, key ≠ .marker k) (hfound : recordOf scheme store.slots key = some r)
    (ts : List Transaction) :
    ∃ r', recordOf scheme (store.after scheme ts).slots key = some r' ∧ r.Continues r' := by
  induction ts generalizing store r with
  | nil => exact ⟨r, hfound, .refl r⟩
  | cons t rest ih =>
    obtain ⟨r', hfound', hcontinues⟩ := t.continued_apply hs hreach.ordered hkey hfound
    obtain ⟨r'', hfound'', hcontinues'⟩ := ih (hreach.step t) hfound'
    exact ⟨r'', hfound'', hcontinues.trans hcontinues'⟩

/-- In every run that starts where the gate owns nothing, each transaction is governed at its turn, and
each record but a marker that is found at some time is found at the end, is still about the same and
belongs to the same authority. Addresses are to separate records at every bump, not only at those that are
found: a record that could be opened as another one would be changed in its name. -/
theorem changes_are_authorized (hs : scheme.Separates) (hstart : store.Unowned)
    (ts : List Transaction) :
    (∀ before t after, ts = before ++ t :: after → Governed scheme t (store.after scheme before)) ∧
      ∀ before after, ts = before ++ after →
        ∀ key r, (∀ k, key ≠ .marker k) →
          recordOf scheme (store.after scheme before).slots key = some r →
            ∃ r', recordOf scheme (store.after scheme ts).slots key = some r' ∧ r.Continues r' := by
  have hreach : ∀ before, Reachable scheme (store.after scheme before) :=
    fun before => (Reachable.start hstart).after before
  constructor
  · rintro before t after -
    exact t.governed hs (hreach before).ordered
  · rintro before after rfl key r hkey hfound
    rw [after_append]
    exact continued_after hs (hreach before) hkey hfound after

/-- The store of the example, when another key may still replace the gate's program. -/
def exampleBeforehand : Store :=
  exampleStore.put (.filled 32 9)
    { owner := .loader, lamports := 1, data := (LoaderState.programData 7 (some (.filled 32 5))).encode }

/-- Makes the gateway of the example, once the right to replace the gate's program has been handed over to
the authority. -/
def exampleFounding : Transaction :=
  { exampleTransaction
      [(exampleAddress (.gateway 2), false), (.filled 32 42, true), (.gate, false), (.filled 32 9, false),
        (.system, false)]
      (.createGateway 2) with
    meanwhile := [(.filled 32 9, exampleStore.account (.filled 32 9))] }

/-- Stops the gateway of the example. -/
def exampleStop : Transaction :=
  exampleTransaction [(exampleAddress (.gateway 2), false), (.filled 32 42, true)]
    (.switchGateway false)

/-- Adds a signer to a registry of the example. -/
def exampleEnrolment : Transaction :=
  exampleTransaction
    [(exampleAddress (.registry .via 43113), false), (exampleAddress (.gateway 2), false),
      (.filled 32 42, true)]
    (.changeRegistry .via 43113 (.addSigner (.filled 32 3)))

/-- The gateway is made, set up, used and stopped, and a registry of it is changed. -/
def exampleReign : List Transaction :=
  exampleFounding :: exampleSetup.tail ++ [exampleCommit, exampleStop, exampleEnrolment]

/-- The store after so many transactions of this run. -/
def exampleStage (n : Nat) : Store := exampleBeforehand.after exampleScheme (exampleReign.take n)

/-- The gateway is made for the key that may replace the gate's program by then, the counter is moved by a
commit, and the gateway is stopped and its registry changed with the signature of its authority. -/
theorem changes_are_authorized_in_example :
    exampleScheme.Separates ∧ exampleBeforehand.Unowned ∧
      exampleBeforehand.Replacer (.filled 32 5) ∧
      (exampleFounding.await exampleBeforehand).Replacer (.filled 32 42) ∧
      exampleFounding.call.signs (.filled 32 42) = true ∧
      (∃ m signatures, m.source = 43113 ∧
        exampleCommit.Completes exampleScheme (exampleStage 4) (.commit m signatures)) ∧
      exampleStop.call.signs (.filled 32 42) = true ∧
      exampleEnrolment.call.signs (.filled 32 42) = true ∧
      ∃ g, recordOf exampleScheme (exampleBeforehand.after exampleScheme exampleReign).slots (.gateway 2) =
        some (.gateway g) ∧ g.authority = .filled 32 42 := by
  have hstart : exampleBeforehand.Unowned := unowned_of_entries (by decide +kernel)
  have hbeforehand : exampleBeforehand.Replacer (.filled 32 5) :=
    ⟨.filled 32 9, 7, by decide +kernel, by decide +kernel, by decide +kernel, by decide +kernel⟩
  obtain ⟨hgoverned, hcontinued⟩ :=
    changes_are_authorized exampleScheme_separates hstart exampleReign
  -- the gateway is made
  have hfounding : Governed exampleScheme exampleFounding exampleBeforehand :=
    hgoverned [] exampleFounding (exampleReign.drop 1) rfl
  have hnone : recordOf exampleScheme exampleBeforehand.slots (.gateway 2) = none :=
    recordOf_of_unowned hstart _
  have hmade : recordOf exampleScheme (exampleFounding.apply exampleScheme exampleBeforehand).slots
      (.gateway 2) = some (.gateway exampleGateway) := by
    decide +kernel
  obtain ⟨-, hfounds, hreplacer⟩ := hfounding.gateway_made 2 _ hnone hmade
  -- the counter is moved
  have hcommit : Governed exampleScheme exampleCommit (exampleStage 4) :=
    hgoverned (exampleReign.take 4) exampleCommit (exampleReign.drop 5) rfl
  have hnew : recordOf exampleScheme (exampleStage 4).slots (.counter 43113) =
      some (.counter { chain := 43113, highest := 0, bump := 253 }) := by
    decide +kernel
  have hmoved : recordOf exampleScheme (exampleCommit.apply exampleScheme (exampleStage 4)).slots
      (.counter 43113) = some (.counter { chain := 43113, highest := 1, bump := 253 }) := by
    decide +kernel
  have hcommits := hcommit.counter_moved 43113 _ _ hnew hmoved (by decide)
  -- the gateway is stopped
  have hstop : Governed exampleScheme exampleStop (exampleStage 5) :=
    hgoverned (exampleReign.take 5) exampleStop (exampleReign.drop 6) rfl
  have hopen : recordOf exampleScheme (exampleStage 5).slots (.gateway 2) =
      some (.gateway exampleGateway) := by
    decide +kernel
  have hstopped : recordOf exampleScheme (exampleStop.apply exampleScheme (exampleStage 5)).slots
      (.gateway 2) = some (.gateway { exampleGateway with enabled := false }) := by
    decide +kernel
  obtain ⟨-, -, hstops⟩ := hstop.gateway_switched 2 _ _ hopen hstopped (by decide)
  -- a signer is added
  have henrolment : Governed exampleScheme exampleEnrolment (exampleStage 6) :=
    hgoverned (exampleReign.take 6) exampleEnrolment [] rfl
  have halone : recordOf exampleScheme (exampleStage 6).slots (.registry .via 43113) =
      some (.registry exampleLayers.via) := by
    decide +kernel
  have hjoined : recordOf exampleScheme
      (exampleEnrolment.apply exampleScheme (exampleStage 6)).slots (.registry .via 43113) =
        some (.registry { exampleLayers.via with signers := [.filled 32 1, .filled 32 3] }) := by
    decide +kernel
  obtain ⟨-, -, -, henrols⟩ :=
    henrolment.registry_changed .via 43113 _ _ halone hjoined (by decide)
  -- the gateway is still its authority's at the end
  obtain ⟨r, hfound, hcontinues⟩ :=
    hcontinued [exampleFounding] (exampleReign.drop 1) rfl _ _ (by simp) hmade
  obtain ⟨g, rfl, hauthority, -, -⟩ := StoredRecord.continues_gateway hcontinues
  exact ⟨exampleScheme_separates, hstart, hbeforehand, hreplacer, hfounds, hcommits, hstops, henrols,
    g, hfound, hauthority⟩

end Store

end RelayGate
