import RelayGate.Account.Edit
import RelayGate.Invocation

/-!
# Making and closing the accounts of records

A record is made at an address that nobody has claimed. Anybody can send lamports to such an address
beforehand, and must not be able to block it that way: an account with lamports is topped up to the
minimum balance and claimed, one without is made in a single native call. Both end in the same state.

Closing an account moves its balance away and leaves it as if nobody had ever claimed it, so the
address can be used again.

Accounts are made and closed in place (`creating`, `closing`). As the host undoes a call that fails, the
calls of the gate go on from what comes of this when it goes well (`create`, `close`).
-/

namespace RelayGate.RecordAccount

open Store (Edit)

/-- Makes an unclaimed account that has no lamports. -/
def claimEmpty (scheme : AddressScheme) (inv : Invocation) (store : Store) (key payer : Key)
    (space : Nat) (seeds : Bytes) (bump : UInt8) : Except HostError Store := do
  let vouched ← System.vouch scheme seeds bump
  System.createAccount inv store vouched payer key inv.program space (minimumBalance space)

/-- Pays what is missing to a balance. -/
def topUp (inv : Invocation) (store : Store) (key payer : Key) (balance : UInt64) :
    Except HostError Store :=
  let current := (store.account key).lamports
  if current < balance then System.transfer inv store payer key (balance - current) else .ok store

/-- Makes an unclaimed account that has lamports. -/
def claimingFunded (scheme : AddressScheme) (inv : Invocation) (key payer : Key) (space : Nat)
    (seeds : Bytes) (bump : UInt8) : Edit HostError Unit := do
  .call fun store => topUp inv store key payer (minimumBalance space)
  let vouched ← .ofExcept (System.vouch scheme seeds bump)
  .call fun store => System.allocate inv store vouched key space
  .call fun store => System.assign inv store vouched key inv.program

/-- The store in which the account is claimed. -/
def claimFunded (scheme : AddressScheme) (inv : Invocation) (store : Store) (key payer : Key)
    (space : Nat) (seeds : Bytes) (bump : UInt8) : Except HostError Store :=
  ((claimingFunded scheme inv key payer space seeds bump).complete store).outcome

/-- Whatever does not belong to the system program counts as taken. -/
def Taken (a : Account) (program : Key) : Prop := a.isLive program = true ∨ a.owner ≠ .system

instance (a : Account) (program : Key) : Decidable (Taken a program) :=
  inferInstanceAs (Decidable (_ ∨ _))

/-- Makes the account of a record, or says that there is one. -/
def creating (scheme : AddressScheme) (inv : Invocation) (key payer : Key) (space : Nat) (seeds : Bytes)
    (bump : UInt8) : Edit Rejection Unit := do
  let target := (← .look).account key
  if Taken target inv.program then
    .ofTraced do
      .say (.recordExists key)
      .fail (.gate .alreadyExists)
  if target.lamports = 0 then
    Edit.mapError .host (.call fun store => claimEmpty scheme inv store key payer space seeds bump)
  else
    Edit.mapError .host (claimingFunded scheme inv key payer space seeds bump)

/-- The store in which the account is made. -/
def create (scheme : AddressScheme) (inv : Invocation) (store : Store) (key payer : Key)
    (space : Nat) (seeds : Bytes) (bump : UInt8) : Traced Rejection Store :=
  (creating scheme inv key payer space seeds bump).complete store

/-- Makes the account of a record that the call itself announces. An account that is taken shows in
what the native calls refuse. -/
def createDeclared (scheme : AddressScheme) (inv : Invocation) (store : Store) (key payer : Key)
    (space : Nat) (seeds : Bytes) (bump : UInt8) : Except Rejection Store := do
  if (store.account key).lamports = 0 then
    claimEmpty scheme inv store key payer space seeds bump
  else
    ensure (payer ≠ key) (Rejection.access .payerIsTarget)
    claimFunded scheme inv store key payer space seeds bump

/-- Closes an account in favour of another one. -/
def closing (key destination : Key) : Edit Rejection Unit := do
  let store ← .look
  let reclaimed := (store.account key).lamports
  let balance := (store.account destination).lamports
  .ofExcept (ensure (balance.toNat + reclaimed.toNat < UInt64.size) (Rejection.host .arithmeticOverflow))
  .change destination ({ · with lamports := balance + reclaimed })
  .change key ({ · with lamports := 0 })
  .change key ({ · with owner := .system })
  .change key ({ · with data := [] })

/-- The store in which the account is closed. -/
def close (store : Store) (key destination : Key) : Except Rejection Store :=
  ((closing key destination).complete store).outcome

/-! ## What comes of the edits -/

variable {scheme : AddressScheme} {inv : Invocation} {store : Store} {key payer destination : Key}
  {space : Nat} {seeds : Bytes} {bump : UInt8}

theorem claimFunded_eq :
    claimFunded scheme inv store key payer space seeds bump = (do
      let funded ← topUp inv store key payer (minimumBalance space)
      let vouched ← System.vouch scheme seeds bump
      let sized ← System.allocate inv funded vouched key space
      System.assign inv sized vouched key inv.program) := by
  simp only [claimFunded, claimingFunded, Edit.outcome_complete_call_bind,
    Edit.outcome_complete_ofExcept_bind, Edit.outcome_complete_call]

theorem creating_of_taken (h : Taken (store.account key) inv.program) :
    (creating scheme inv key payer space seeds bump).perform store =
      (⟨[.recordExists key], .error (.gate .alreadyExists)⟩, store) := by
  rw [creating, Edit.perform_bind_of_value rfl]
  dsimp only
  rw [if_pos h]
  exact Edit.perform_bind_of_error rfl

/-- Whether an account that is free has lamports decides only which native calls make it. -/
theorem creating_of_not_taken (h : ¬Taken (store.account key) inv.program) :
    (creating scheme inv key payer space seeds bump).perform store =
      if (store.account key).lamports = 0 then
        (Edit.mapError Rejection.host
          (.call fun store => claimEmpty scheme inv store key payer space seeds bump)).perform store
      else
        (Edit.mapError Rejection.host
          (claimingFunded scheme inv key payer space seeds bump)).perform store := by
  rw [creating, Edit.perform_bind_of_value rfl]
  dsimp only
  rw [if_neg h]
  split
  · rfl
  · rfl

theorem outcome_create :
    (create scheme inv store key payer space seeds bump).outcome =
      if Taken (store.account key) inv.program then .error (.gate .alreadyExists)
      else if (store.account key).lamports = 0 then
        (claimEmpty scheme inv store key payer space seeds bump).mapError .host
      else (claimFunded scheme inv store key payer space seeds bump).mapError .host := by
  rw [create]
  by_cases h : Taken (store.account key) inv.program
  · rw [if_pos h, Edit.complete_of_error (creating_of_taken h)]
  · rw [if_neg h, Edit.complete, creating_of_not_taken h]
    split
    · rw [← Edit.complete, Edit.outcome_complete_mapError, Edit.outcome_complete_call]
    · rw [← Edit.complete, Edit.outcome_complete_mapError, claimFunded]

theorem claimingFunded_of_ok {made : Store}
    (h : claimFunded scheme inv store key payer space seeds bump = .ok made) :
    (claimingFunded scheme inv key payer space seeds bump).perform store = (.value (), made) := by
  simp only [claimFunded_eq, except_bind_eq_ok] at h
  obtain ⟨funded, hfunded, vouched, hvouched, sized, hsized, hmade⟩ := h
  rw [claimingFunded, Edit.perform_bind_of_value (Edit.perform_call_of_ok hfunded),
    Edit.perform_bind_of_value (Edit.perform_ofExcept_of_ok hvouched),
    Edit.perform_bind_of_value (Edit.perform_call_of_ok hsized)]
  exact Edit.perform_call_of_ok hmade

/-- Where an account is made, nothing is told. -/
theorem creating_of_create {made : Store}
    (h : (create scheme inv store key payer space seeds bump).outcome = .ok made) :
    (creating scheme inv key payer space seeds bump).perform store = (.value (), made) := by
  rw [outcome_create] at h
  split at h
  · cases h
  · next hfree =>
    rw [creating_of_not_taken hfree]
    split at h
    · next hzero =>
      rw [if_pos hzero, Edit.perform_mapError, Edit.perform_call_of_ok (mapError_eq_ok.1 h)]
      rfl
    · next hzero =>
      rw [if_neg hzero, Edit.perform_mapError, claimingFunded_of_ok (mapError_eq_ok.1 h)]
      rfl

/-- The overflow shows before anything is written. -/
theorem closing_of_overflow
    (h : ¬(store.account destination).lamports.toNat + (store.account key).lamports.toNat < UInt64.size) :
    (closing key destination).perform store =
      (⟨[], .error (.host .arithmeticOverflow)⟩, store) := by
  rw [closing, Edit.perform_bind_of_value rfl]
  exact Edit.perform_bind_of_error (Edit.perform_ofExcept_of_error (ensure_eq_error.2 ⟨h, rfl⟩))

theorem closing_of_fits
    (h : (store.account destination).lamports.toNat + (store.account key).lamports.toNat < UInt64.size) :
    (closing key destination).perform store =
      (.value (),
        let paid := store.put destination { store.account destination with
          lamports := (store.account destination).lamports + (store.account key).lamports }
        paid.put key { paid.account key with lamports := 0, owner := .system, data := [] }) := by
  rw [closing, Edit.perform_bind_of_value rfl,
    Edit.perform_bind_of_value (a := ()) (Edit.perform_ofExcept_of_ok (ensure_eq_ok.2 h)),
    Edit.perform_bind_of_value rfl, Edit.perform_bind_of_value rfl, Edit.perform_bind_of_value rfl]
  simp only [Edit.change, Store.account_put_self, Store.put_put]

theorem close_eq :
    close store key destination = (do
      let reclaimed := (store.account key).lamports
      let receiver := store.account destination
      ensure (receiver.lamports.toNat + reclaimed.toNat < UInt64.size) (Rejection.host .arithmeticOverflow)
      let store := store.put destination { receiver with lamports := receiver.lamports + reclaimed }
      pure (store.put key { store.account key with lamports := 0, owner := .system, data := [] })) := by
  by_cases h :
      (store.account destination).lamports.toNat + (store.account key).lamports.toNat < UInt64.size
  · rw [close, Edit.complete, closing_of_fits h]
    dsimp only
    rw [ensure_eq_ok (u := ()).2 h]
    rfl
  · rw [close, Edit.complete_of_error (closing_of_overflow h)]
    dsimp only
    rw [ensure_eq_error.2 ⟨h, rfl⟩]
    rfl

theorem closing_of_close {after : Store} (h : close store key destination = .ok after) :
    (closing key destination).perform store = (.value (), after) := by
  by_cases hfits :
      (store.account destination).lamports.toNat + (store.account key).lamports.toNat < UInt64.size
  · rw [close, Edit.complete, closing_of_fits hfits] at h
    obtain rfl := Except.ok.inj h
    exact closing_of_fits hfits
  · rw [close, Edit.complete_of_error (closing_of_overflow hfits)] at h
    cases h

end RelayGate.RecordAccount
