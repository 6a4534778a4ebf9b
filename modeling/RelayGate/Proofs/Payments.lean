import RelayGate.Proofs.Balances
import RelayGate.Proofs.CallEffects
import RelayGate.Proofs.RecordCreation

/-!
# Who pays for records

Lamports move only where the account of a record is made or closed. Whoever has a record made pays what
its address lacks to the minimum balance, whoever has one closed gets all that is there, and no other call
moves any lamports: this is `Funding`, of which there are three cases. What is to be shown about lamports
follows from these.

The key that pays or gets paid has signed the call. It must not be the address of the record itself, which
only a record could sign for (`Invocation.NoRecordSigns`).
-/

namespace RelayGate

variable {scheme : AddressScheme} {inv : Invocation} {store made after : Store}
  {address payer receiver program : Key} {bump : UInt8} {key : RecordKey} {call : Call}
  {out : Program.Outcome}

/-! ## Balances of records -/

theorem Store.Rewrites.balance_eq (h : store.Rewrites after) (key : Key) :
    after.balance key = store.balance key := by
  obtain ⟨data, -, hafter⟩ := h key
  rw [balance, hafter, balance]

theorem Store.Pays.rewrites {amount : Nat} (h : store.Pays made payer receiver amount)
    (hwrite : made.Rewrites after) : store.Pays after payer receiver amount := by
  intro key
  rw [hwrite.balance_eq]
  exact h key

theorem Store.Spares.le {amount : UInt64} (h : store.Spares payer amount) :
    amount.toNat ≤ store.balance payer := by
  rcases h with rfl | ⟨-, hfunds⟩
  · exact Nat.zero_le _
  · exact UInt64.le_iff_toNat_le.1 hfunds

namespace RecordAccount

variable {space : Nat}

/-- Whoever has a record made pays what its address lacks. -/
theorem Made.pays (h : Made store made program address payer space) (hother : payer ≠ address) :
    store.Pays made payer address ((minimumBalance space).toNat - store.balance address) := by
  have hfunds := h.funded.le
  rw [toNat_missing] at hfunds
  intro key
  rw [Store.balance, h.accounts, accountsMade, Function.update_apply, Function.update_apply]
  by_cases htarget : key = address
  · subst htarget
    rw [if_pos rfl, if_neg hother.symm, if_pos rfl, claimed, toNat_add_missing, Store.balance]
    omega
  · rw [if_neg htarget, if_neg htarget]
    by_cases hpayer : key = payer
    · subst hpayer
      have hle : missing (store.account address).lamports (minimumBalance space) ≤
          (store.account key).lamports := by
        rw [UInt64.le_iff_toNat_le, toNat_missing]
        exact hfunds
      rw [if_pos rfl, if_pos rfl, UInt64.toNat_sub_of_le _ _ hle, toNat_missing, Store.balance,
        Store.balance]
      exact Nat.sub_add_cancel hfunds
    · rw [if_neg hpayer, if_neg hpayer]
      rfl

theorem close_eq_ok (hother : receiver ≠ address) :
    close store address receiver = .ok after ↔
      store.balance receiver + store.balance address < UInt64.size ∧
        (store.put receiver { store.account receiver with
            lamports := (store.account receiver).lamports + (store.account address).lamports }).put
          address { store.account address with lamports := 0, owner := .system, data := [] } = after := by
  simp only [close_eq, except_bind_eq_ok, ensure_eq_ok, except_pure_eq_ok, exists_const,
    Store.account_put_of_ne _ hother.symm, Store.balance]

theorem toNat_close (h : store.balance receiver + store.balance address < UInt64.size) :
    ((store.account receiver).lamports + (store.account address).lamports).toNat =
      store.balance receiver + store.balance address := by
  rw [UInt64.toNat_add]
  exact Nat.mod_eq_of_lt h

/-- Whoever has a record closed gets all that its address has. -/
theorem pays_close (hother : receiver ≠ address) (h : close store address receiver = .ok after) :
    store.Pays after address receiver (store.balance address) := by
  obtain ⟨hsize, rfl⟩ := (close_eq_ok hother).1 h
  intro key
  rw [Store.balance, Store.account_put, Store.account_put]
  by_cases hclosed : key = address
  · subst hclosed
    rw [if_pos rfl, if_pos rfl, if_neg hother.symm, Nat.add_zero]
    exact Nat.zero_add _
  · rw [if_neg hclosed, if_neg hclosed]
    by_cases hreceiver : key = receiver
    · subst hreceiver
      rw [if_pos rfl, if_pos rfl, toNat_close hsize, Nat.add_zero]
    · rw [if_neg hreceiver, if_neg hreceiver]
      rfl

end RecordAccount

/-! ## Calls -/

/-- No account that signs is the address of a record. -/
def Invocation.NoRecordSigns (inv : Invocation) (scheme : AddressScheme) : Prop :=
  ∀ key address bump, scheme.locate key = some (address, bump) → inv.signs address = false

theorem Invocation.NoRecordSigns.ne (h : inv.NoRecordSigns scheme)
    (hlocate : scheme.locate key = some (address, bump)) (hsigned : inv.signs payer = true) :
    payer ≠ address := by
  rintro rfl
  rw [h key payer bump hlocate] at hsigned
  cases hsigned

/-- The size of the account of a record. -/
def RecordKey.space : RecordKey → Nat
  | gateway _ => RecordKind.tagSize + Gateway.size
  | counter _ => RecordKind.tagSize + Counter.size
  | registry _ _ => Registry.space Registry.maxSigners
  | marker _ => RecordKind.tagSize + Marker.size

/-- The record whose account a call makes, and the place of who pays for it. -/
def Call.opens? : Call → Option (RecordKey × Nat)
  | .createGateway chain => some (.gateway chain, 1)
  | .createCounter source => some (.counter source, 1)
  | .createRegistry layer chain _ _ => some (.registry layer chain, 2)
  | .commit m _ => some (.marker m.key, 3)
  | _ => none

/-- The record whose account a call closes, and the place of who gets its balance. -/
def Call.closes? : Call → Option (RecordKey × Nat)
  | .settle m _ => some (.marker m.key, 5)
  | _ => none

/-- A call is given the account of a record, and at a place one that signs and is another one. -/
structure Invocation.Parties (inv : Invocation) (scheme : AddressScheme) (key : RecordKey) (place : Nat)
    (address party : Key) : Prop where
  located : ∃ bump, scheme.locate key = some (address, bump)
  named : inv.address? place = some party
  signed : inv.signs party = true
  other : party ≠ address

/-- What a call that succeeds does to accounts, apart from what their data say. -/
inductive Funding (scheme : AddressScheme) (inv : Invocation) (store after : Store) (call : Call) : Prop
  /-- A record is made and written. -/
  | opens {key : RecordKey} {place : Nat} {address payer : Key} {made : Store}
      (hcall : call.opens? = some (key, place)) (hparties : inv.Parties scheme key place address payer)
      (hmade : RecordAccount.Made store made .gate address payer key.space) (hwrite : made.Rewrites after)
  /-- A record is closed. -/
  | closes {key : RecordKey} {place : Nat} {address receiver : Key}
      (hcall : call.closes? = some (key, place)) (hparties : inv.Parties scheme key place address receiver)
      (hclose : RecordAccount.close store address receiver = .ok after)
  /-- Records are written over. -/
  | keeps (hopens : call.opens? = none) (hcloses : call.closes? = none) (hwrite : store.Rewrites after)

/-- A call that makes the account of a record has it paid by one that signs. -/
theorem Funding.of_made {place : Nat} (hprogram : inv.program = .gate) (hrecords : inv.NoRecordSigns scheme)
    (hcall : call.opens? = some (key, place)) (hlocate : scheme.locate key = some (address, bump))
    (hpayer : inv.address? place = some payer) (hsigned : inv.signs payer = true)
    (hmade : payer ≠ address → RecordAccount.Made store made inv.program address payer key.space)
    (hwrite : made.Rewrites after) : Funding scheme inv store after call := by
  have hother := hrecords.ne hlocate hsigned
  rw [hprogram] at hmade
  exact .opens hcall ⟨⟨bump, hlocate⟩, hpayer, hsigned, hother⟩ (hmade hother) hwrite

/-- Every call that succeeds is funded. -/
theorem Program.funding_run (hprogram : inv.program = .gate) (hrecords : inv.NoRecordSigns scheme)
    (hrun : (run scheme inv store call).outcome = .ok out) : Funding scheme inv store out.store call := by
  cases call with
  | createGateway chain =>
    obtain ⟨c, hc, -, -, -, -, hwrite⟩ := createGateway_ok hprogram hrun
    exact .of_made hprogram hrecords rfl hc.located hc.payer hc.signed
      (fun hother => RecordAccount.made_of_createDeclared hother hc.made) hwrite
  | switchGateway enabled =>
    obtain ⟨address, g, -, -, -, -, hwrite⟩ := switchGateway_ok hrun
    exact .keeps rfl rfl hwrite
  | createCounter source =>
    obtain ⟨c, hc, -, -, -, -, hwrite⟩ := createCounter_ok hprogram hrun
    exact .of_made hprogram hrecords rfl hc.located hc.payer hc.signed
      (fun hother => RecordAccount.made_of_createDeclared hother hc.made) hwrite
  | createRegistry layer chain signers threshold =>
    obtain ⟨c, r, hc, -, -, -, -, made, hcreate, hwrite⟩ := createRegistry_ok hprogram hrun
    exact .of_made hprogram hrecords rfl hc.located hc.payer hc.signed
      (fun hother => RecordAccount.made_of_create hother hcreate) hwrite
  | changeRegistry layer chain change =>
    obtain ⟨address, r, r', -, -, -, -, -, -, hwrite⟩ := changeRegistry_ok hrun
    exact .keeps rfl rfl hwrite
  | request txId recipient destination data confirmations =>
    obtain ⟨gatewayAddress, g, sender, -, -, -, -, hstore, -⟩ := request_ok hrun
    rw [hstore]
    exact .keeps rfl rfl (.refl store)
  | commit m signatures =>
    obtain ⟨a, ha, -, -, -, -, made, hcreate, hwrite⟩ := commit_ok hprogram hrun
    exact .of_made hprogram hrecords rfl ha.marker ha.payer ha.signed
      (fun hother => RecordAccount.made_of_create hother hcreate) hwrite
  | settle m signatures =>
    obtain ⟨a, layers, preceding, marker, tally, ha, -, -, -, -, -, hclose⟩ := settle_ok hprogram hrun
    obtain ⟨bump, hlocate⟩ := ha.marker
    exact .closes rfl ⟨ha.marker, ha.receiver, ha.signed, hrecords.ne hlocate ha.signed⟩ hclose

/-! ## What calls do with lamports -/

/-- Whom a call that succeeds takes lamports from, whom it gives them to, and how many they are. -/
structure Accounted (scheme : AddressScheme) (inv : Invocation) (before after : Store) (call : Call) :
    Prop where
  /-- No lamports are made and none are lost. -/
  total : after.total = before.total
  /-- Who has a record made pays what its address lacks. -/
  opened : ∀ key place, call.opens? = some (key, place) →
    ∃ address payer, inv.Parties scheme key place address payer ∧
      before.Pays after payer address ((minimumBalance key.space).toNat - before.balance address)
  /-- Who has a record closed gets what its address has. -/
  closed : ∀ key place, call.closes? = some (key, place) →
    ∃ address receiver, inv.Parties scheme key place address receiver ∧
      before.Pays after address receiver (before.balance address)
  /-- No other call moves any. -/
  kept : call.opens? = none → call.closes? = none → after.balance = before.balance

/-- Nothing opens a record and closes one. -/
theorem Call.closes?_of_opens? {place : Nat} (h : call.opens? = some (key, place)) : call.closes? = none := by
  cases call <;> first | rfl | cases h

namespace Funding

variable (h : Funding scheme inv store after call)
include h

theorem accounted : Accounted scheme inv store after call := by
  cases h with
  | @opens key place address payer made hcall hparties hmade hwrite =>
    have hpays := (hmade.pays hparties.other).rewrites hwrite
    refine ⟨hpays.total_eq, ?_, ?_, ?_⟩
    · intro key' place' hcall'
      obtain ⟨rfl, rfl⟩ := Prod.mk.inj (Option.some.inj (hcall.symm.trans hcall'))
      exact ⟨address, payer, hparties, hpays⟩
    · intro key' place' hcall'
      cases (Call.closes?_of_opens? hcall).symm.trans hcall'
    · intro hopens
      cases hcall.symm.trans hopens
  | @closes key place address receiver hcall hparties hclose =>
    have hpays := RecordAccount.pays_close hparties.other hclose
    refine ⟨hpays.total_eq, ?_, ?_, ?_⟩
    · intro key' place' hcall'
      cases (Call.closes?_of_opens? hcall').symm.trans hcall
    · intro key' place' hcall'
      obtain ⟨rfl, rfl⟩ := Prod.mk.inj (Option.some.inj (hcall.symm.trans hcall'))
      exact ⟨address, receiver, hparties, hpays⟩
    · intro hopens hcloses
      cases hcall.symm.trans hcloses
  | keeps hopens hcloses hwrite =>
    have hsame : after.balance = store.balance := funext hwrite.balance_eq
    refine ⟨Store.total_eq_of_balance hsame, ?_, ?_, fun _ _ => hsame⟩
    · intro key' place' hcall'
      cases hopens.symm.trans hcall'
    · intro key' place' hcall'
      cases hcloses.symm.trans hcall'

end Funding

end RelayGate
