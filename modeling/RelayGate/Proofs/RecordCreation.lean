import RelayGate.Proofs.RecordAccounts

/-!
# Accounts of records: what it takes to make one

The account of a record can be made at an address that nobody has claimed, whatever lamports were sent
there before, by whoever pays what is missing to the minimum balance. The two ways of making it end in
the same accounts (`RecordAccount.exists_create`), and there is no third way (`RecordAccount.made_of_create`).
-/

namespace RelayGate

variable {scheme : AddressScheme} {inv : Invocation} {store : Store} {address payer source target : Key}
  {seeds : Bytes} {bump : UInt8} {space : Nat} {amount : UInt64}

theorem Store.account_put_eq_update (store : Store) (address : Key) (a : Account) :
    (store.put address a).account = Function.update store.account address a := by
  funext other
  rw [account_put, Function.update_apply]

/-- What a balance lacks. -/
def missing (balance required : UInt64) : UInt64 :=
  if balance < required then required - balance else 0

theorem missing_zero (required : UInt64) : missing 0 required = required := by
  unfold missing
  split
  · exact UInt64.sub_zero _
  · next h =>
    by_contra hne
    exact h (UInt64.pos_iff_ne_zero.2 (Ne.symm hne))

theorem toNat_missing (balance required : UInt64) :
    (missing balance required).toNat = required.toNat - balance.toNat := by
  unfold missing
  split
  · next h => exact UInt64.toNat_sub_of_le _ _ (UInt64.le_of_lt h)
  · next h =>
    rw [UInt64.lt_iff_toNat_lt] at h
    exact (Nat.sub_eq_zero_of_le (Nat.not_lt.1 h)).symm

/-- What is missing tops a balance up to what is required, and cannot overflow it. -/
theorem toNat_add_missing (balance required : UInt64) :
    (balance + missing balance required).toNat = max balance.toNat required.toNat := by
  have hsize := required.toNat_lt
  have hsize' := balance.toNat_lt
  rw [UInt64.toNat_add, toNat_missing, Nat.mod_eq_of_lt (by omega)]
  omega

/-- An account has an amount to spare: there is nothing to pay, or it has that much and is empty of
data. -/
def Store.Spares (store : Store) (payer : Key) (amount : UInt64) : Prop :=
  amount = 0 ∨ (store.account payer).data = [] ∧ amount ≤ (store.account payer).lamports

/-- An account can pay an amount: there is nothing to pay, or it has that much to spare and belongs to the
system program, which debits no other account. -/
def Store.CanPay (store : Store) (payer : Key) (amount : UInt64) : Prop :=
  amount = 0 ∨ (store.account payer).owner = .system ∧ (store.account payer).data = [] ∧
    amount ≤ (store.account payer).lamports

theorem Store.CanPay.spares (h : store.CanPay payer amount) : store.Spares payer amount :=
  h.imp_right And.right

/-- The accounts after one has paid another. -/
def Store.accountsPaid (store : Store) (source target : Key) (amount : UInt64) : Key → Account :=
  Function.update
    (Function.update store.account source
      { store.account source with lamports := (store.account source).lamports - amount })
    target { store.account target with lamports := (store.account target).lamports + amount }

theorem Store.accountsPaid_zero (store : Store) (source target : Key) :
    store.accountsPaid source target 0 = store.account := by
  rw [accountsPaid, UInt64.sub_zero, Function.update_eq_self, UInt64.add_zero, Function.update_eq_self]

theorem System.move_eq_ok (hother : source ≠ target) {after : Store} :
    move store source target amount = .ok after ↔
      ((store.account source).data = [] ∧ amount ≤ (store.account source).lamports) ∧
        (store.put source { store.account source with
            lamports := (store.account source).lamports - amount }).put target
          { store.account target with lamports := (store.account target).lamports + amount } = after := by
  simp only [move, except_bind_eq_ok, ensure_eq_ok, except_pure_eq_ok, exists_const,
    Store.account_put_of_ne _ hother.symm, and_assoc]

/-- An account that pays another one has that much to spare, and nothing else happens. -/
theorem System.accounts_move {after : Store} (hother : source ≠ target)
    (h : move store source target amount = .ok after) :
    store.Spares source amount ∧ after.account = store.accountsPaid source target amount := by
  obtain ⟨hpays, rfl⟩ := (move_eq_ok hother).1 h
  refine ⟨Or.inr hpays, ?_⟩
  rw [Store.account_put_eq_update, Store.account_put_eq_update]
  rfl

theorem System.exists_move (hother : source ≠ target) (hdata : (store.account source).data = [])
    (hfunds : amount ≤ (store.account source).lamports) :
    ∃ after, move store source target amount = .ok after ∧
      after.account = store.accountsPaid source target amount := by
  have hmove := (move_eq_ok hother).2 ⟨⟨hdata, hfunds⟩, rfl⟩
  exact ⟨_, hmove, (accounts_move hother hmove).2⟩

namespace RecordAccount

/-- What a caller brings to have the account of a record made: the account is the program's to sign for,
and a signer other than the account itself pays what is missing. -/
structure Backing (scheme : AddressScheme) (inv : Invocation) (store : Store) (address payer : Key)
    (space : Nat) (seeds : Bytes) (bump : UInt8) : Prop where
  vouched : scheme.derive seeds bump = some address
  writable : inv.writes address = true
  signed : inv.signs payer = true
  pays : inv.writes payer = true
  other : payer ≠ address
  funded : store.CanPay payer (missing (store.account address).lamports (minimumBalance space))

/-- What it takes to make the account of a record: besides that, nobody has claimed it. -/
structure Claim (scheme : AddressScheme) (inv : Invocation) (store : Store) (address payer : Key)
    (space : Nat) (seeds : Bytes) (bump : UInt8) : Prop
    extends Backing scheme inv store address payer space seeds bump where
  unclaimed : (store.account address).owner = .system
  empty : (store.account address).data = []

/-- The account that is made: its balance is topped up, and it holds zeros. -/
def claimed (a : Account) (program : Key) (space : Nat) : Account :=
  { a with
    owner := program
    lamports := a.lamports + missing a.lamports (minimumBalance space)
    data := List.replicate space 0 }

/-- The accounts when one was made and paid for. -/
def accountsMade (store : Store) (program address payer : Key) (space : Nat) : Key → Account :=
  Function.update
    (Function.update store.account payer
      { store.account payer with
        lamports := (store.account payer).lamports -
          missing (store.account address).lamports (minimumBalance space) })
    address (claimed (store.account address) program space)

/-- An account may be sized and given away first, and then be paid for. -/
theorem accountsPaid_give (hother : payer ≠ address) (program : Key) :
    (System.give (store.put address { store.account address with data := List.replicate space 0 })
        address program).accountsPaid payer address
          (missing (store.account address).lamports (minimumBalance space)) =
      accountsMade store program address payer space := by
  have hgiven : (System.give (store.put address { store.account address with
      data := List.replicate space 0 }) address program).account =
        Function.update store.account address
          { store.account address with data := List.replicate space 0, owner := program } := by
    simp only [System.give, Store.account_put_eq_update, Function.update_self, Function.update_idem]
  rw [Store.accountsPaid, hgiven, Function.update_of_ne hother, Function.update_self, accountsMade, claimed,
    Function.update_comm hother, Function.update_idem, Function.update_comm hother.symm]

/-- An account may be paid for first, and then be sized and given away. -/
theorem account_give_paid {funded : Store} (program : Key)
    (hpaid : funded.account = store.accountsPaid payer address
      (missing (store.account address).lamports (minimumBalance space))) :
    (System.give (funded.put address { funded.account address with data := List.replicate space 0 })
        address program).account =
      accountsMade store program address payer space := by
  rw [System.give, Store.account_put_eq_update, Store.account_put_self, Store.account_put_eq_update,
    Function.update_idem, hpaid, Store.accountsPaid, Function.update_self, Function.update_idem]
  rfl

theorem exists_claimEmpty (h : Claim scheme inv store address payer space seeds bump)
    (hspace : minimumBalance space ≠ 0) (hbalance : (store.account address).lamports = 0) :
    ∃ made, claimEmpty scheme inv store address payer space seeds bump = .ok made ∧
      made.account = accountsMade store inv.program address payer space := by
  have hmissing : missing (store.account address).lamports (minimumBalance space) =
      minimumBalance space := by
    rw [hbalance, missing_zero]
  obtain hnothing | ⟨hdata, hfunds⟩ := h.funded.spares
  · rw [hmissing] at hnothing
    exact absurd hnothing hspace
  rw [hmissing] at hfunds
  -- the account is sized and given away before it is paid for
  let given := System.give (store.put address { store.account address with
    data := List.replicate space 0 }) address inv.program
  have hpayer : given.account payer = store.account payer := by
    simp only [given, System.give, Store.account_put_of_ne _ h.other]
  have hgivenData : (given.account payer).data = [] := by rw [hpayer, hdata]
  have hgivenFunds : minimumBalance space ≤ (given.account payer).lamports := by
    rw [hpayer]
    exact hfunds
  obtain ⟨made, hmove, hmade⟩ := System.exists_move h.other hgivenData hgivenFunds
  refine ⟨made, ?_, ?_⟩
  · simp only [claimEmpty, System.vouch, h.vouched, System.createAccount, System.checkSigner,
      System.checkWritable, except_bind_eq_ok, ensure_eq_ok, System.size_eq_ok, exists_const]
    exact ⟨address, rfl, Or.inl h.signed, h.pays, Or.inr rfl, h.writable, hbalance, _,
      ⟨⟨h.empty, h.unclaimed⟩, rfl⟩, hmove⟩
  · rw [hmade, ← accountsPaid_give h.other, hmissing]

theorem exists_topUp (h : Claim scheme inv store address payer space seeds bump) :
    ∃ funded, topUp inv store address payer (minimumBalance space) = .ok funded ∧
      funded.account = store.accountsPaid payer address
        (missing (store.account address).lamports (minimumBalance space)) := by
  have hfunded := h.funded.spares
  unfold topUp
  dsimp only
  rw [missing] at hfunded ⊢
  split
  · next hlt =>
    rw [if_pos hlt] at hfunded
    obtain hnothing | ⟨hdata, hfunds⟩ := hfunded
    · have hsame := UInt64.sub_eq_iff_eq_add.1 hnothing
      rw [UInt64.zero_add] at hsame
      exact absurd hlt (hsame ▸ UInt64.lt_irrefl _)
    · obtain ⟨funded, hmove, hpaid⟩ := System.exists_move h.other hdata hfunds
      refine ⟨funded, ?_, hpaid⟩
      simp only [System.transfer, System.checkSigner, System.checkWritable, except_bind_eq_ok,
        ensure_eq_ok, exists_const]
      exact ⟨Or.inl h.signed, h.pays, h.writable, hmove⟩
  · exact ⟨store, rfl, (store.accountsPaid_zero payer address).symm⟩

theorem exists_claimFunded (h : Claim scheme inv store address payer space seeds bump) :
    ∃ made, claimFunded scheme inv store address payer space seeds bump = .ok made ∧
      made.account = accountsMade store inv.program address payer space := by
  obtain ⟨funded, htopUp, hpaid⟩ := exists_topUp h
  have haddress : funded.account address = { store.account address with
      lamports := (store.account address).lamports +
        missing (store.account address).lamports (minimumBalance space) } := by
    rw [hpaid, Store.accountsPaid, Function.update_self]
  refine ⟨System.give (funded.put address { funded.account address with
    data := List.replicate space 0 }) address inv.program, ?_, account_give_paid _ hpaid⟩
  simp only [claimFunded_eq, System.vouch, h.vouched, System.allocate, System.assign,
    System.checkSigner, System.checkWritable, except_bind_eq_ok, except_pure_eq_ok, ensure_eq_ok,
    System.size_eq_ok, exists_const]
  refine ⟨funded, htopUp, address, rfl, _, ⟨Or.inr rfl, h.writable, ?_, rfl⟩, Or.inr rfl, h.writable, rfl⟩
  rw [haddress]
  exact ⟨h.empty, h.unclaimed⟩

/-- The account of a record is made whenever this is possible, and it makes no difference whether lamports
were sent to it before. -/
theorem exists_create (h : Claim scheme inv store address payer space seeds bump)
    (hspace : minimumBalance space ≠ 0) :
    ∃ made, (create scheme inv store address payer space seeds bump).outcome = .ok made ∧
      made.account = accountsMade store inv.program address payer space := by
  have hfree : ¬Taken (store.account address) inv.program := by
    simp [Taken, Account.isLive, h.empty, h.unclaimed]
  rw [outcome_create, if_neg hfree]
  split
  · next hbalance =>
    obtain ⟨made, hmade, haccounts⟩ := exists_claimEmpty h hspace hbalance
    exact ⟨made, mapError_eq_ok.2 hmade, haccounts⟩
  · obtain ⟨made, hmade, haccounts⟩ := exists_claimFunded h
    exact ⟨made, mapError_eq_ok.2 hmade, haccounts⟩

theorem account_topUp {funded : Store} {balance : UInt64}
    (h : topUp inv store address payer balance = .ok funded) (other : Key) :
    ∃ lamports, funded.account other = { store.account other with lamports } := by
  unfold topUp at h
  dsimp only at h
  split at h
  · simp only [System.transfer, except_bind_eq_ok, exists_unit_and] at h
    exact System.account_move h.2.2.2 other
  · rw [← Except.ok.inj h]
    exact ⟨_, rfl⟩

/-- The account of a record is made only where nobody has claimed one and there are no data. -/
theorem unclaimed_of_create {made : Store}
    (h : (create scheme inv store address payer space seeds bump).outcome = .ok made) :
    (store.account address).owner = .system ∧ (store.account address).data = [] := by
  rw [outcome_create] at h
  split at h
  · cases h
  · split at h
    · simp only [mapError_eq_ok, claimEmpty, System.createAccount, except_bind_eq_ok, System.size_eq_ok,
        exists_unit_and] at h
      obtain ⟨vouched, -, -, -, -, -, -, sized, ⟨hunclaimed, -⟩, -⟩ := h
      exact hunclaimed.symm
    · simp only [mapError_eq_ok, claimFunded_eq, System.allocate, except_bind_eq_ok, System.size_eq_ok,
        exists_unit_and] at h
      obtain ⟨funded, hfunded, vouched, -, sized, ⟨-, -, hunclaimed, -⟩, -⟩ := h
      obtain ⟨lamports, hsame⟩ := account_topUp hfunded address
      rw [hsame] at hunclaimed
      exact hunclaimed.symm

/-! ## What was made -/

/-- What is so when the account of a record was made: nobody had claimed it, and its payer had what was
missing to spare. -/
structure Made (store made : Store) (program address payer : Key) (space : Nat) : Prop where
  unclaimed : (store.account address).owner = .system
  empty : (store.account address).data = []
  funded : store.Spares payer (missing (store.account address).lamports (minimumBalance space))
  accounts : made.account = accountsMade store program address payer space

variable {made : Store}

theorem made_of_claimEmpty (hother : payer ≠ address)
    (h : claimEmpty scheme inv store address payer space seeds bump = .ok made) :
    Made store made inv.program address payer space := by
  simp only [claimEmpty, System.createAccount, except_bind_eq_ok, ensure_eq_ok, System.size_eq_ok,
    exists_unit_and, exists_const] at h
  obtain ⟨vouched, -, -, -, -, -, hbalance, sized, ⟨⟨hempty, hunclaimed⟩, rfl⟩, hmove⟩ := h
  have hmissing : missing (store.account address).lamports (minimumBalance space) =
      minimumBalance space := by
    rw [hbalance, missing_zero]
  obtain ⟨hpays, haccounts⟩ := System.accounts_move hother hmove
  rw [Store.Spares, System.give, Store.account_put_of_ne _ hother, Store.account_put_of_ne _ hother]
    at hpays
  refine ⟨hunclaimed, hempty, ?_, ?_⟩
  · rw [hmissing]
    exact hpays
  · rw [haccounts, ← accountsPaid_give hother, hmissing]

theorem accounts_topUp {funded : Store} (hother : payer ≠ address)
    (h : topUp inv store address payer (minimumBalance space) = .ok funded) :
    store.Spares payer (missing (store.account address).lamports (minimumBalance space)) ∧
      funded.account = store.accountsPaid payer address
        (missing (store.account address).lamports (minimumBalance space)) := by
  unfold topUp at h
  dsimp only at h
  rw [missing]
  split at h
  · next hlt =>
    simp only [System.transfer, except_bind_eq_ok, exists_unit_and] at h
    rw [if_pos hlt]
    exact System.accounts_move hother h.2.2.2
  · next hge =>
    obtain rfl := Except.ok.inj h
    rw [if_neg hge]
    exact ⟨Or.inl rfl, (store.accountsPaid_zero payer address).symm⟩

theorem made_of_claimFunded (hother : payer ≠ address)
    (h : claimFunded scheme inv store address payer space seeds bump = .ok made) :
    Made store made inv.program address payer space := by
  simp only [claimFunded_eq, System.allocate, System.assign, except_bind_eq_ok, except_pure_eq_ok,
    System.size_eq_ok, exists_unit_and] at h
  obtain ⟨funded, htopUp, vouched, -, sized, ⟨-, -, ⟨hempty, hunclaimed⟩, rfl⟩, -, -, rfl⟩ := h
  obtain ⟨hpays, hpaid⟩ := accounts_topUp hother htopUp
  rw [hpaid, Store.accountsPaid, Function.update_self] at hempty hunclaimed
  exact ⟨hunclaimed, hempty, hpays, account_give_paid _ hpaid⟩

/-- Whenever the account of a record is made, and however, it is paid for by the payer. -/
theorem made_of_create (hother : payer ≠ address)
    (h : (create scheme inv store address payer space seeds bump).outcome = .ok made) :
    Made store made inv.program address payer space := by
  rw [outcome_create] at h
  split at h
  · cases h
  · split at h
    · exact made_of_claimEmpty hother (mapError_eq_ok.1 h)
    · exact made_of_claimFunded hother (mapError_eq_ok.1 h)

theorem made_of_createDeclared (hother : payer ≠ address)
    (h : createDeclared scheme inv store address payer space seeds bump = .ok made) :
    Made store made inv.program address payer space := by
  unfold createDeclared at h
  split at h
  · exact made_of_claimEmpty hother (mapError_eq_ok.1 h)
  · simp only [except_bind_eq_ok, ensure_eq_ok, exists_const, liftM_host, mapError_eq_ok] at h
    exact made_of_claimFunded hother h.2

end RecordAccount

end RelayGate
