import RelayGate.Proofs.Authority
import RelayGate.Proofs.Payments

/-!
# Lamports

What calls do with lamports adds up over runs: no call makes or loses any, so none can be drained from
the records, and every record keeps the minimum balance of its size (`Store.lamports_conserved`). The
marker of a delivery is paid for by the relayer who commits and refunded to the one who settles, with
whatever was sent to its address before.

The account in which the host shows the instructions is put there for each transaction, so balances are
compared from there on.
-/

namespace RelayGate

variable {scheme : AddressScheme} {inv : Invocation} {store after : Store} {address : Key} {bump : UInt8}
  {key : RecordKey} {call : Call} {t : Transaction} {ts : List Transaction} {amount : Nat}

/-! ## Rent -/

/-- A record keeps at least the minimum balance of its size, so that it is never charged rent. -/
def Account.RentExempt (a : Account) : Prop :=
  a.isLive .gate = true → minimumBalance a.data.length ≤ a.lamports

/-- All records are exempt from rent. -/
def Store.RentExempt (store : Store) : Prop := ∀ address, (store.account address).RentExempt

theorem Account.isLive_eq_true {a : Account} {program : Key} :
    a.isLive program = true ↔ a.owner = program ∧ a.data ≠ [] := by
  simp [isLive]

theorem Account.rentExempt_of_owner {a : Account} (h : a.owner ≠ .gate) : a.RentExempt :=
  fun hlive => absurd (isLive_eq_true.1 hlive).1 h

theorem Account.rentExempt_of_empty {a : Account} (h : a.data = []) : a.RentExempt :=
  fun hlive => absurd h (isLive_eq_true.1 hlive).2

namespace Store

theorem Unowned.rentExempt (h : store.Unowned) : store.RentExempt :=
  fun address => Account.rentExempt_of_owner (h address)

theorem RentExempt.put (h : store.RentExempt) {a : Account} (ha : a.RentExempt) (address : Key) :
    (store.put address a).RentExempt := by
  intro other
  rw [account_put]
  split
  · exact ha
  · exact h other

theorem RentExempt.rewrites (h : store.RentExempt) (hwrite : store.Rewrites after) :
    after.RentExempt := by
  intro address hlive
  obtain ⟨data, hlength, hafter⟩ := hwrite address
  rw [hafter] at hlive ⊢
  obtain ⟨howner, hdata⟩ := Account.isLive_eq_true.1 hlive
  rw [hlength]
  refine h address (Account.isLive_eq_true.2 ⟨howner, fun hempty => hdata ?_⟩)
  rw [hempty] at hlength
  exact List.length_eq_zero_iff.1 hlength

/-- Who pays holds no record, unless there is nothing to pay. -/
theorem RentExempt.payer (h : store.RentExempt) {payer : Key} {amount : UInt64}
    (hpays : store.Spares payer amount) :
    { store.account payer with lamports := (store.account payer).lamports - amount }.RentExempt := by
  rcases hpays with rfl | ⟨hdata, -⟩
  · rw [UInt64.sub_zero]
    exact h payer
  · exact Account.rentExempt_of_empty hdata

theorem RentExempt.made (h : store.RentExempt) {made : Store} {program payer : Key} {space : Nat}
    (hmade : RecordAccount.Made store made program address payer space) : made.RentExempt := by
  intro other
  rw [hmade.accounts, RecordAccount.accountsMade, Function.update_apply, Function.update_apply]
  split
  · intro _
    rw [RecordAccount.claimed, List.length_replicate, UInt64.le_iff_toNat_le, toNat_add_missing]
    exact Nat.le_max_right _ _
  · split
    · exact h.payer hmade.funded
    · exact h other

theorem RentExempt.close (h : store.RentExempt) {receiver : Key} (hother : receiver ≠ address)
    (hclose : RecordAccount.close store address receiver = .ok after) : after.RentExempt := by
  obtain ⟨hsize, rfl⟩ := (RecordAccount.close_eq_ok hother).1 hclose
  refine (h.put ?_ receiver).put (Account.rentExempt_of_empty rfl) address
  intro hlive
  refine UInt64.le_trans (h receiver hlive) ?_
  rw [UInt64.le_iff_toNat_le, RecordAccount.toNat_close hsize]
  exact Nat.le_add_right _ _

/-- Records are exempt from rent as long as the gate owns the same. -/
theorem RentExempt.sameOwned (h : store.RentExempt) (hsame : store.SameOwned after) :
    after.RentExempt := by
  intro address
  by_cases hown : (after.account address).owner = .gate
  · rw [hsame address (.inr hown)]
    exact h address
  · exact Account.rentExempt_of_owner hown

theorem RentExempt.expose (h : store.RentExempt) (t : Transaction) : (t.expose store).RentExempt := by
  have hother : Key.sysvar ≠ Key.gate := by decide
  exact (h.sameOwned (.await t store)).put (Account.rentExempt_of_owner hother) .instructions

end Store

/-! ## Balances that stay -/

/-- The gate owns an account, with this balance. -/
def Store.Keeps (store : Store) (address : Key) (amount : Nat) : Prop :=
  (store.account address).owner = .gate ∧ store.balance address = amount

namespace Store.Keeps

theorem of_account (h : store.Keeps address amount)
    (hsame : after.account address = store.account address) : after.Keeps address amount := by
  rw [Keeps, balance, hsame]
  exact h

theorem rewrites (h : store.Keeps address amount) (hwrite : store.Rewrites after) :
    after.Keeps address amount := by
  refine ⟨?_, (hwrite.balance_eq address).trans h.2⟩
  obtain ⟨data, -, hafter⟩ := hwrite address
  rw [hafter]
  exact h.1

theorem expose (h : store.Keeps address amount) (ho : Ordered scheme store.slots) (t : Transaction) :
    (t.expose store).Keeps address amount :=
  h.of_account (t.sameOwned_expose ho address (.inl h.1))

end Store.Keeps

namespace Funding

theorem rentExempt (h : Funding scheme inv store after call) (hstore : store.RentExempt) :
    after.RentExempt := by
  cases h with
  | opens hcall hparties hmade hwrite => exact (hstore.made hmade).rewrites hwrite
  | closes hcall hparties hclose => exact hstore.close hparties.other hclose
  | keeps hopens hcloses hwrite => exact hstore.rewrites hwrite

/-- A record that is made has what was there and what was missing. -/
theorem keeps_opened (h : Funding scheme inv store after call) {place : Nat}
    (hcall : call.opens? = some (key, place)) (hlocate : scheme.locate key = some (address, bump)) :
    after.Keeps address (max (store.balance address) (minimumBalance key.space).toNat) := by
  cases h with
  | @opens key' place' address' payer made hcall' hparties hmade hwrite =>
    obtain ⟨rfl, rfl⟩ := Prod.mk.inj (Option.some.inj (hcall.symm.trans hcall'))
    obtain ⟨bump', hlocate'⟩ := hparties.located
    obtain ⟨rfl, -⟩ := Prod.mk.inj (Option.some.inj (hlocate.symm.trans hlocate'))
    refine Store.Keeps.rewrites ⟨?_, ?_⟩ hwrite
    · rw [hmade.accounts, RecordAccount.accountsMade, Function.update_self, RecordAccount.claimed]
    · rw [Store.balance, hmade.accounts, RecordAccount.accountsMade, Function.update_self,
        RecordAccount.claimed, toNat_add_missing, Store.balance]
  | closes hcall' => cases (Call.closes?_of_opens? hcall).symm.trans hcall'
  | keeps hopens => cases hopens.symm.trans hcall

/-- A record keeps its balance as long as no call closes it. -/
theorem keeps_held (h : Funding scheme inv store after call) (hs : scheme.Separates)
    (hrecords : inv.NoRecordSigns scheme) (hlocate : scheme.locate key = some (address, bump))
    (hheld : store.Keeps address amount) (hopen : ∀ place, call.closes? ≠ some (key, place)) :
    after.Keeps address amount := by
  cases h with
  | @opens key' place address' payer made hcall hparties hmade hwrite =>
    have hother : address ≠ address' := by
      rintro rfl
      have hsystem : Key.gate ≠ Key.system := by decide
      exact hsystem (hheld.1.symm.trans hmade.unclaimed)
    have hpayer := hrecords.ne hlocate hparties.signed
    refine Store.Keeps.rewrites (hheld.of_account ?_) hwrite
    rw [hmade.accounts, RecordAccount.accountsMade, Function.update_of_ne hother,
      Function.update_of_ne hpayer.symm]
  | @closes key' place address' receiver hcall hparties hclose =>
    have hother : address ≠ address' := by
      rintro rfl
      obtain ⟨bump', hlocate'⟩ := hparties.located
      obtain rfl := hs.locate_inj hlocate hlocate'
      exact hopen place hcall
    have hreceiver := hrecords.ne hlocate hparties.signed
    obtain ⟨-, rfl⟩ := (RecordAccount.close_eq_ok hparties.other).1 hclose
    refine hheld.of_account ?_
    rw [Store.account_put_of_ne _ hother, Store.account_put_of_ne _ hreceiver.symm]
  | keeps hopens hcloses hwrite => exact hheld.rewrites hwrite

end Funding

/-! ## Transactions -/

namespace Transaction

theorem apply_cases (scheme : AddressScheme) (t : Transaction) (store : Store) :
    (∃ call, t.Completes scheme store call) ∨ t.apply scheme store = t.expose store := by
  rcases t.completion?_cases scheme store with ⟨call, out, -, -, -, hcompletion, -⟩ | ⟨-, happly⟩
  · exact .inl ⟨call, out.events, hcompletion⟩
  · exact .inr happly

theorem Completes.funding (h : t.Completes scheme store call) (hrecords : t.call.NoRecordSigns scheme) :
    Funding scheme t.call (t.expose store) (t.apply scheme store) call := by
  obtain ⟨events, hcompletes⟩ := h
  rcases t.completion?_cases scheme store with
    ⟨call', out, hprogram, -, hrun, hcompletion, happly⟩ | ⟨hnone, -⟩
  · obtain ⟨rfl, -⟩ := Prod.mk.inj (Option.some.inj (hcompletes.symm.trans hcompletion))
    rw [happly]
    exact Program.funding_run hprogram hrecords hrun
  · cases hcompletes.symm.trans hnone

theorem rentExempt_apply (h : store.RentExempt) (hrecords : t.call.NoRecordSigns scheme) :
    (t.apply scheme store).RentExempt := by
  rcases t.apply_cases scheme store with ⟨call, hcompletes⟩ | happly
  · exact (hcompletes.funding hrecords).rentExempt (h.expose t)
  · rw [happly]
    exact h.expose t

theorem keeps_apply (hs : scheme.Separates) (ho : Ordered scheme store.slots)
    (hrecords : t.call.NoRecordSigns scheme) (hlocate : scheme.locate key = some (address, bump))
    (hheld : store.Keeps address amount)
    (hopen : ∀ call place, t.Completes scheme store call → call.closes? ≠ some (key, place)) :
    (t.apply scheme store).Keeps address amount := by
  rcases t.apply_cases scheme store with ⟨call, hcompletes⟩ | happly
  · exact (hcompletes.funding hrecords).keeps_held hs hrecords hlocate (hheld.expose ho t)
      fun place => hopen call place hcompletes
  · rw [happly]
    exact hheld.expose ho t

end Transaction

/-! ## Runs -/

/-- A call that closes the account of a marker settles the delivery. -/
theorem Call.phase?_of_closes? {k : MarkerKey} {place : Nat} (h : call.closes? = some (.marker k, place)) :
    call.phase? = some (.settled k) := by
  cases call with
  | settle m signatures =>
    obtain ⟨hkey, -⟩ := Prod.mk.inj (Option.some.inj h)
    rw [← RecordKey.marker.inj hkey]
    rfl
  | _ => cases h

namespace Store

theorem rentExempt_after (h : store.RentExempt) (hts : ∀ t ∈ ts, t.call.NoRecordSigns scheme) :
    (store.after scheme ts).RentExempt := by
  induction ts generalizing store with
  | nil => exact h
  | cons t rest ih =>
    exact ih (Transaction.rentExempt_apply h (hts t (by simp))) fun t' ht' => hts t' (by simp [ht'])

theorem mem_history_cons {p : Book.Phase} (store : Store) (t : Transaction) (rest : List Transaction) :
    p ∈ store.history scheme (t :: rest) ↔
      (∃ call, t.Completes scheme store call ∧ call.phase? = some p) ∨
        p ∈ (t.apply scheme store).history scheme rest := by
  unfold Transaction.Completes
  cases hcompletion : t.completion? scheme store with
  | none =>
    rw [history_cons_of_none hcompletion]
    simp
  | some c =>
    obtain ⟨call, events⟩ := c
    rw [history_cons_of_some hcompletion]
    simp

/-- Along a run in which its delivery is not settled, a marker keeps its balance. -/
theorem keeps_after (hs : scheme.Separates) (hreach : Reachable scheme store) {k : MarkerKey}
    (hlocate : scheme.locate (.marker k) = some (address, bump)) (hheld : store.Keeps address amount)
    (hts : ∀ t ∈ ts, t.call.NoRecordSigns scheme) (hopen : .settled k ∉ store.history scheme ts) :
    (store.after scheme ts).Keeps address amount := by
  induction ts generalizing store with
  | nil => exact hheld
  | cons t rest ih =>
    rw [mem_history_cons, not_or] at hopen
    refine ih (hreach.step t) ?_ (fun t' ht' => hts t' (by simp [ht'])) hopen.2
    refine Transaction.keeps_apply hs hreach.ordered (hts t (by simp)) hlocate hheld ?_
    intro call place hcompletes hcloses
    exact hopen.1 ⟨call, hcompletes, Call.phase?_of_closes? hcloses⟩

/-- A delivery that was settled is not settled again. -/
theorem not_settled_again (hs : scheme.Separates) (hstart : store.Unowned) {k : MarkerKey}
    {before rest : List Transaction} (h : .settled k ∈ store.history scheme before) :
    .settled k ∉ (store.after scheme before).history scheme rest := by
  intro hagain
  obtain ⟨entries, hphases, hrun⟩ := book_after hs (Ordered.of_unowned hstart) (before ++ rest)
  have hnone : recordOf scheme store.slots (.marker k) = none := recordOf_of_unowned hstart _
  have habsent : (store.book scheme).pending k = none := by simp [book, Book.ofRecords, hnone]
  have honce := Book.count_settled_le_one hrun habsent
  rw [hphases, history_append, List.count_append] at honce
  have hpos := List.count_pos_iff.2 h
  have hpos' := List.count_pos_iff.2 hagain
  omega

/-- What the commit and the settlement of a delivery do with lamports: one relayer pays what the address of
the marker lacks, and one gets all that it has, which is what was there before and what was paid. -/
structure Refunded (scheme : AddressScheme) (k : MarkerKey) (first : Transaction) (opening : Store)
    (last : Transaction) (closing : Store) (address payer receiver : Key) : Prop where
  paying : first.call.Parties scheme (.marker k) 3 address payer
  receiving : last.call.Parties scheme (.marker k) 5 address receiver
  paid : (first.expose opening).Pays (first.apply scheme opening) payer address
    ((minimumBalance (RecordKey.marker k).space).toNat - (first.expose opening).balance address)
  refunded : (last.expose closing).Pays (last.apply scheme closing) address receiver
    ((last.expose closing).balance address)
  /-- Where addresses separate records, at every bump, nothing in between touches the marker. -/
  balance : scheme.Separates → (last.expose closing).balance address =
    max ((first.expose opening).balance address) (minimumBalance (RecordKey.marker k).space).toNat

theorem refunded_of_completes (hstart : store.Unowned) {before between : List Transaction}
    {first last : Transaction} {m m' : Message} {signatures signatures' : List Signature}
    (hfirst : first.call.NoRecordSigns scheme) (hbetween : ∀ t ∈ between, t.call.NoRecordSigns scheme)
    (hlast : last.call.NoRecordSigns scheme) (hkey : m'.key = m.key)
    (hcommit : first.Completes scheme (store.after scheme before) (.commit m signatures))
    (hsettle : last.Completes scheme (store.after scheme (before ++ first :: between))
      (.settle m' signatures')) :
    ∃ address payer receiver, Refunded scheme m.key first (store.after scheme before) last
      (store.after scheme (before ++ first :: between)) address payer receiver := by
  have hopening := hcommit.funding hfirst
  have hclosing := hsettle.funding hlast
  have hcloses : (Call.settle m' signatures').closes? = some (.marker m.key, 5) := by
    rw [← hkey]
    rfl
  obtain ⟨address, payer, hpaying, hpaid⟩ := hopening.accounted.opened _ _ rfl
  obtain ⟨address', receiver, hreceiving, hrefunded⟩ := hclosing.accounted.closed _ _ hcloses
  obtain ⟨bump, hlocate⟩ := hpaying.located
  obtain ⟨bump', hlocate'⟩ := hreceiving.located
  obtain ⟨rfl, -⟩ := Prod.mk.inj (Option.some.inj (hlocate.symm.trans hlocate'))
  refine ⟨address, payer, receiver, hpaying, hreceiving, hpaid, hrefunded, fun hs => ?_⟩
  have hreach : Reachable scheme (store.after scheme before) := (Reachable.start hstart).after before
  -- the delivery is settled at the end, so it was not settled in between
  have hopen : .settled m.key ∉
      (first.apply scheme (store.after scheme before)).history scheme between := by
    intro hmem
    have hsettled : .settled m.key ∈ store.history scheme (before ++ first :: between) := by
      rw [history_append, List.mem_append, mem_history_cons]
      exact .inr (.inr hmem)
    refine not_settled_again hs hstart hsettled ((mem_history_cons _ last []).2 (.inl ?_))
    exact ⟨_, hsettle, Call.phase?_of_closes? hcloses⟩
  have hheld := keeps_after hs (hreach.step first) hlocate (hopening.keeps_opened rfl hlocate) hbetween hopen
  rw [after_append]
  exact (hheld.expose ((hreach.step first).after between).ordered last).2

/-- In every run that starts where the gate owns nothing and in which no record signs: all records are
exempt from rent at the end, every call that succeeds is accounted for, and what is paid for the marker of
a delivery is refunded when it is settled. -/
theorem lamports_conserved (hstart : store.Unowned) (ts : List Transaction)
    (hts : ∀ t ∈ ts, t.call.NoRecordSigns scheme) :
    (store.after scheme ts).RentExempt ∧
      (∀ before t rest, ts = before ++ t :: rest →
        ∀ call, t.Completes scheme (store.after scheme before) call →
          Accounted scheme t.call (t.expose (store.after scheme before))
            (t.apply scheme (store.after scheme before)) call) ∧
      ∀ before first between last rest, ts = before ++ first :: between ++ last :: rest →
        ∀ m m' signatures signatures', m'.key = m.key →
          first.Completes scheme (store.after scheme before) (.commit m signatures) →
          last.Completes scheme (store.after scheme (before ++ first :: between))
            (.settle m' signatures') →
          ∃ address payer receiver, Refunded scheme m.key first (store.after scheme before) last
            (store.after scheme (before ++ first :: between)) address payer receiver := by
  refine ⟨rentExempt_after hstart.rentExempt hts, ?_, ?_⟩
  · rintro before t rest rfl call hcompletes
    exact (hcompletes.funding (hts t (by simp))).accounted
  · rintro before first between last rest rfl m m' signatures signatures' hkey hcommit hsettle
    exact refunded_of_completes hstart (hts first (by simp)) (fun t ht => hts t (by simp [ht]))
      (hts last (by simp)) hkey hcommit hsettle

/-- The store of the example, in which somebody has sent lamports to the address of the marker. -/
def examplePrefunded : Store :=
  exampleStore.put (exampleAddress (.marker Ledger.exampleMessage.key)) { lamports := 1000 }

theorem lamports_conserved_prefunded :
    examplePrefunded.Unowned ∧ (∀ t ∈ exampleRun, t.call.NoRecordSigns exampleScheme) ∧
      (examplePrefunded.after exampleScheme exampleRun).RentExempt ∧
      ∃ address payer receiver, Refunded exampleScheme Ledger.exampleMessage.key
        exampleCommit (examplePrefunded.after exampleScheme exampleSetup)
        exampleSettle (examplePrefunded.after exampleScheme (exampleSetup ++ [exampleCommit]))
        address payer receiver := by
  have hstart : examplePrefunded.Unowned := unowned_of_entries (by decide +kernel)
  have hrecords : ∀ t ∈ exampleRun, t.call.NoRecordSigns exampleScheme := by
    intro t ht key address bump hlocate
    obtain ⟨e, he, -, rfl⟩ := mem_of_derive_exampleScheme (AddressScheme.derive_of_locate hlocate)
    have hsigns : ∀ t ∈ exampleRun, ∀ e ∈ exampleAddresses, t.call.signs (keyOfNat e.2.2) = false := by
      decide +kernel
    exact hsigns t ht e he
  have hphases : (exampleCommit.completion? exampleScheme
        (examplePrefunded.after exampleScheme exampleSetup)).map Prod.fst =
          some (.commit Ledger.exampleMessage Ledger.exampleSignatures) ∧
      (exampleSettle.completion? exampleScheme
        (examplePrefunded.after exampleScheme (exampleSetup ++ [exampleCommit]))).map Prod.fst =
          some (.settle Ledger.exampleMessage Ledger.exampleSignatures) := by
    decide +kernel
  obtain ⟨⟨_, events⟩, hcommit, rfl⟩ := Option.map_eq_some_iff.1 hphases.1
  obtain ⟨⟨_, events'⟩, hsettle, rfl⟩ := Option.map_eq_some_iff.1 hphases.2
  obtain ⟨hexempt, -, hrefunded⟩ := lamports_conserved hstart exampleRun hrecords
  exact ⟨hstart, hrecords, hexempt, hrefunded exampleSetup exampleCommit [] exampleSettle
    [exampleCommit, exampleSettle] rfl _ _ _ _ rfl ⟨events, hcommit⟩ ⟨events', hsettle⟩⟩

end Store

end RelayGate
