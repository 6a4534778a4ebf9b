import RelayGate.Proofs.StoredRecords
import RelayGate.RecordAccount

/-!
# Accounts of records: what shows

Moving lamports never shows in a slot. So of all that making the account of a record does, and of all
that closing it does, one slot is what remains: an account that nobody had claimed becomes an account
of the gate without a record, and one of the gate becomes one that nobody has claimed. Every other
account is the same as before but for its balance (`changesOnly_createDeclared`).
-/

namespace RelayGate

variable {scheme : AddressScheme} {inv : Invocation} {store after : Store}
  {address payer source target vouched : Key} {seeds : Bytes} {bump : UInt8} {space : Nat}
  {amount balance : UInt64}

/-- Every account but the one at this address is as before, apart from its balance. -/
def Store.ChangesOnly (before after : Store) (address : Key) : Prop :=
  ∀ other, other ≠ address → ∃ lamports, after.account other = { before.account other with lamports }

theorem Store.ChangesOnly.trans {before middle after : Store} (h : before.ChangesOnly middle address)
    (h' : middle.ChangesOnly after address) : before.ChangesOnly after address := by
  intro other hother
  obtain ⟨l, hl⟩ := h other hother
  obtain ⟨l', hl'⟩ := h' other hother
  exact ⟨l', by rw [hl', hl]⟩

theorem Store.changesOnly_put (store : Store) (address : Key) (a : Account) :
    store.ChangesOnly (store.put address a) address := by
  intro other hother
  exact ⟨(store.account other).lamports, account_put_of_ne store hother a⟩

/-- A balance is all that is changed where a balance is written. -/
theorem Store.account_put_lamports (store : Store) (key : Key) (amount : UInt64) (other : Key) :
    ∃ lamports, (store.put key { store.account key with lamports := amount }).account other =
      { store.account other with lamports } := by
  rw [account_put]
  split
  · next heq => exact ⟨amount, by rw [heq]⟩
  · exact ⟨_, rfl⟩

/-- Every account is as before, apart from what its data say. -/
def Store.Rewrites (before after : Store) : Prop :=
  ∀ key, ∃ data : Bytes, data.length = (before.account key).data.length ∧
    after.account key = { before.account key with data }

theorem Store.Rewrites.refl (store : Store) : store.Rewrites store := fun _ => ⟨_, rfl, rfl⟩

theorem Store.Rewrites.trans {before middle after : Store} (h : before.Rewrites middle)
    (h' : middle.Rewrites after) : before.Rewrites after := by
  intro key
  obtain ⟨d, hd, hmiddle⟩ := h key
  obtain ⟨d', hd', hafter⟩ := h' key
  refine ⟨d', ?_, by rw [hafter, hmiddle]⟩
  rw [hd', hmiddle, hd]

/-- A record is written over data that are there. -/
theorem Access.rewrites_writeRecord {α : Type} [Record α] {r : α}
    (h : writeRecord store address r = .ok after) : store.Rewrites after := by
  obtain ⟨data, hwrite, rfl⟩ := writeRecord_eq_ok.1 h
  obtain ⟨hroom, rfl⟩ := Record.write_eq_ok.1 hwrite
  intro key
  by_cases hkey : key = address
  · subst hkey
    refine ⟨_, ?_, Store.account_put_self _ _ _⟩
    rw [List.length_append, List.length_drop, Nat.add_sub_cancel' hroom]
  · exact ⟨_, rfl, Store.account_put_of_ne store hkey _⟩

/-- An account of zeros that the gate owns holds no record. -/
theorem Account.slot_zeros {a : Account} (howner : a.owner = .gate)
    (hdata : a.data = List.replicate space 0) : a.slot = .unreadable := by
  rw [slot, if_pos howner, hdata, StoredRecord.read?_zeros]

/-! ## Native calls -/

namespace System

theorem slots_move (h : move store source target amount = .ok after) : after.slots = store.slots := by
  simp only [move, except_bind_eq_ok, ensure_eq_ok, except_pure_eq_ok, exists_const] at h
  obtain ⟨-, -, rfl⟩ := h
  rw [Store.slots_put_of_eq (Account.slot_with_lamports _ _)]
  exact Store.slots_put_of_eq (Account.slot_with_lamports _ _)

theorem slots_transfer (h : transfer inv store source target amount = .ok after) :
    after.slots = store.slots := by
  simp only [transfer, except_bind_eq_ok, exists_unit_and] at h
  obtain ⟨-, -, -, hmove⟩ := h
  exact slots_move hmove

/-- Moving lamports changes balances only. -/
theorem account_move (h : move store source target amount = .ok after) (other : Key) :
    ∃ lamports, after.account other = { store.account other with lamports } := by
  simp only [move, except_bind_eq_ok, ensure_eq_ok, except_pure_eq_ok, exists_const] at h
  obtain ⟨-, -, rfl⟩ := h
  obtain ⟨l, hpaid⟩ := store.account_put_lamports source
    ((store.account source).lamports - amount) other
  obtain ⟨l', hgot⟩ := Store.account_put_lamports _ target _ other
  exact ⟨l', by rw [hgot, hpaid]⟩

theorem changesOnly_move (h : move store source target amount = .ok after) (address : Key) :
    store.ChangesOnly after address := fun other _ => account_move h other

theorem size_eq_ok :
    size store address space = .ok after ↔
      ((store.account address).data = [] ∧ (store.account address).owner = .system) ∧
        store.put address { store.account address with data := List.replicate space 0 } = after := by
  simp only [size, except_bind_eq_ok, ensure_eq_ok, except_pure_eq_ok, exists_const]

/-- An account that gets zeros and then is given to the gate was the system program's, and holds no
record. -/
theorem slots_give_size {sized : Store} (h : size store address space = .ok sized) :
    store.slots address = .unclaimed ∧
      (give sized address .gate).slots = Function.update store.slots address .unreadable := by
  obtain ⟨⟨-, howner⟩, rfl⟩ := size_eq_ok.1 h
  constructor
  · exact Account.slot_eq_unclaimed.2 howner
  · rw [give, Store.slots_put, Store.slots_put, Function.update_idem, Store.account_put_self]
    congr 1
    exact Account.slot_zeros rfl rfl

/-- Sizing an account and giving it away changes no other one. -/
theorem changesOnly_give_size {sized : Store} {owner : Key} (h : size store address space = .ok sized) :
    store.ChangesOnly (give sized address owner) address := by
  obtain ⟨-, rfl⟩ := size_eq_ok.1 h
  exact (store.changesOnly_put address _).trans (Store.changesOnly_put _ address _)

theorem slots_createAccount {lamports : UInt64}
    (h : createAccount inv store vouched payer address .gate space lamports = .ok after) :
    store.slots address = .unclaimed ∧
      after.slots = Function.update store.slots address .unreadable := by
  simp only [createAccount, except_bind_eq_ok, exists_unit_and] at h
  obtain ⟨-, -, -, -, -, sized, hsize, hmove⟩ := h
  rw [slots_move hmove]
  exact slots_give_size hsize

end System

/-! ## Making and closing -/

namespace RecordAccount

theorem slots_topUp (h : topUp inv store address payer balance = .ok after) :
    after.slots = store.slots := by
  simp only [topUp] at h
  split at h
  · exact System.slots_transfer h
  · rw [Except.ok.inj h]

theorem slots_claimEmpty (hprogram : inv.program = .gate)
    (h : claimEmpty scheme inv store address payer space seeds bump = .ok after) :
    store.slots address = .unclaimed ∧
      after.slots = Function.update store.slots address .unreadable := by
  obtain ⟨vouched, -, hcreate⟩ := except_bind_eq_ok.1 h
  rw [hprogram] at hcreate
  exact System.slots_createAccount hcreate

theorem slots_claimFunded (hprogram : inv.program = .gate)
    (h : claimFunded scheme inv store address payer space seeds bump = .ok after) :
    store.slots address = .unclaimed ∧
      after.slots = Function.update store.slots address .unreadable := by
  simp only [claimFunded_eq, System.allocate, System.assign, except_bind_eq_ok, except_pure_eq_ok,
    exists_unit_and, hprogram] at h
  obtain ⟨funded, hfunded, vouched, -, sized, ⟨-, -, hsize⟩, -, -, rfl⟩ := h
  have hslots := System.slots_give_size hsize
  rw [slots_topUp hfunded] at hslots
  exact hslots

/-- A record is made only at an address that nobody has claimed. -/
theorem slots_create (hprogram : inv.program = .gate)
    (h : (create scheme inv store address payer space seeds bump).outcome = .ok after) :
    store.slots address = .unclaimed ∧
      after.slots = Function.update store.slots address .unreadable := by
  rw [outcome_create] at h
  split at h
  · cases h
  · split at h
    · exact slots_claimEmpty hprogram (mapError_eq_ok.1 h)
    · exact slots_claimFunded hprogram (mapError_eq_ok.1 h)

theorem slots_createDeclared (hprogram : inv.program = .gate)
    (h : createDeclared scheme inv store address payer space seeds bump = .ok after) :
    store.slots address = .unclaimed ∧
      after.slots = Function.update store.slots address .unreadable := by
  unfold createDeclared at h
  split at h
  · exact slots_claimEmpty hprogram (mapError_eq_ok.1 h)
  · simp only [except_bind_eq_ok, ensure_eq_ok, exists_const, liftM_host, mapError_eq_ok] at h
    exact slots_claimFunded hprogram h.2

/-- Making a record that a call announces takes lamports from others, and nothing else. -/
theorem changesOnly_createDeclared
    (h : createDeclared scheme inv store address payer space seeds bump = .ok after) :
    store.ChangesOnly after address := by
  unfold createDeclared at h
  split at h
  · simp only [claimEmpty, System.createAccount, liftM_host, mapError_eq_ok, except_bind_eq_ok,
      exists_unit_and] at h
    obtain ⟨vouched, -, -, -, -, -, -, sized, hsize, hmove⟩ := h
    exact (System.changesOnly_give_size hsize).trans (System.changesOnly_move hmove address)
  · simp only [claimFunded_eq, topUp, System.transfer, System.allocate, System.assign, liftM_host,
      mapError_eq_ok, except_bind_eq_ok, except_pure_eq_ok, exists_unit_and] at h
    obtain ⟨-, funded, hfunded, vouched, -, sized, ⟨-, -, hsize⟩, -, -, rfl⟩ := h
    refine Store.ChangesOnly.trans ?_ (System.changesOnly_give_size hsize)
    split at hfunded
    · simp only [except_bind_eq_ok, exists_unit_and] at hfunded
      exact System.changesOnly_move hfunded.2.2.2 address
    · rw [Except.ok.inj hfunded]
      exact fun other _ => ⟨_, rfl⟩

/-- A record that is closed leaves an address that nobody has claimed. -/
theorem slots_close (h : close store address target = .ok after) :
    after.slots = Function.update store.slots address .unclaimed := by
  simp only [close_eq, except_bind_eq_ok, ensure_eq_ok, except_pure_eq_ok, exists_const] at h
  obtain ⟨-, rfl⟩ := h
  rw [Store.slots_put, Store.slots_put_of_eq (Account.slot_with_lamports _ _)]
  congr 1

end RecordAccount

end RelayGate
