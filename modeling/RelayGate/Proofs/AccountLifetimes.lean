import RelayGate.Proofs.Admission
import RelayGate.Proofs.Lamports
import RelayGate.Proofs.Overwriting

/-!
# Lifetimes of accounts

The account of a record is made once: while anybody but the system program owns what is at its address,
making it is refused and changes nothing. But nobody can keep it from being made by sending lamports to
its address, for these only lower what there is to pay (`RecordAccount.made_whatever_was_sent`).

A marker is found in its account from when it is written until the account is closed. After that the
address is as it was before the account was made, and the account can be made again
(`RecordAccount.markers_come_and_go`).

Everything is said of code that changes accounts in place: of what is refused, it says what the accounts
are then.
-/

namespace RelayGate

variable {scheme : AddressScheme} {inv : Invocation} {store made written after : Store}
  {address payer destination program : Key} {seeds : Bytes} {bump : UInt8} {marker : Marker}

theorem RecordKey.toNat_minimumBalance (key : RecordKey) :
    (minimumBalance key.space).toNat = (128 + key.space) * 6960 := by
  have hspace : (128 + key.space) * 6960 < UInt64.size := by
    cases key <;> simp only [RecordKey.space] <;> decide
  exact UInt64.toNat_ofNat_of_lt hspace

theorem RecordKey.minimumBalance_ne_zero (key : RecordKey) : minimumBalance key.space ≠ 0 := by
  intro hzero
  have hsum := key.toNat_minimumBalance
  rw [hzero, UInt64.toNat_zero] at hsum
  omega

namespace RecordAccount

/-! ## Making -/

section

variable {space : Nat}

/-- A program got an account at an address, of as many bytes as it asked for, and somebody paid what the
address lacked to the minimum balance. -/
structure Acquired (before after : Store) (program address payer : Key) (space : Nat) : Prop where
  owned : (after.account address).owner = program
  /-- The account holds zeros. -/
  zeros : (after.account address).data = List.replicate space 0
  balance_eq : after.balance address = max (before.balance address) (minimumBalance space).toNat
  /-- The payer has lost what was missing, and apart from the account nobody else's balance has changed. -/
  paid : before.Pays after payer address ((minimumBalance space).toNat - before.balance address)
  others : before.ChangesOnly after address

theorem Made.changesOnly (h : Made store made program address payer space) :
    store.ChangesOnly made address := by
  intro other hother
  rw [h.accounts, accountsMade, Function.update_of_ne hother]
  by_cases hpayer : other = payer
  · subst hpayer
    rw [Function.update_self]
    exact ⟨_, rfl⟩
  · rw [Function.update_of_ne hpayer]
    exact ⟨_, rfl⟩

theorem Made.acquired (h : Made store made program address payer space) (hother : payer ≠ address) :
    Acquired store made program address payer space := by
  have haccount : made.account address = claimed (store.account address) program space := by
    rw [h.accounts, accountsMade, Function.update_self]
  refine ⟨?_, ?_, ?_, h.pays hother, h.changesOnly⟩
  · rw [haccount, claimed]
  · rw [haccount, claimed]
  · rw [Store.balance, haccount, claimed, toNat_add_missing, Store.balance]

theorem Backing.claim (h : Backing scheme inv store address payer space seeds bump)
    (hunclaimed : (store.account address).owner = .system) (hempty : (store.account address).data = []) :
    Claim scheme inv store address payer space seeds bump :=
  { h with unclaimed := hunclaimed, empty := hempty }

theorem exists_creating (h : Claim scheme inv store address payer space seeds bump)
    (hspace : minimumBalance space ≠ 0) :
    ∃ made, (creating scheme inv address payer space seeds bump).perform store = (.value (), made) ∧
      Acquired store made inv.program address payer space := by
  obtain ⟨made, hmade, -⟩ := exists_create h hspace
  exact ⟨made, creating_of_create hmade, (made_of_create h.other hmade).acquired h.other⟩

end

/-- An account of anybody but the system program is refused and stays as it is, and nobody pays. One that
nobody has claimed is made, whatever lamports were sent to it: it belongs to the program then and holds as
many zeros as the record takes, and whoever pays has topped its balance up to the minimum and paid no more
than that. -/
theorem made_whatever_was_sent (scheme : AddressScheme) (inv : Invocation) (store : Store)
    (address payer : Key) (key : RecordKey) (seeds : Bytes) (bump : UInt8) :
    ((store.account address).owner ≠ .system →
        (creating scheme inv address payer key.space seeds bump).perform store =
          (⟨[.recordExists address], .error (.gate .alreadyExists)⟩, store)) ∧
      (Backing scheme inv store address payer key.space seeds bump →
        (store.account address).owner = .system → (store.account address).data = [] →
          ∃ made, (creating scheme inv address payer key.space seeds bump).perform store =
              (.value (), made) ∧
            Acquired store made inv.program address payer key.space) := by
  refine ⟨fun howner => creating_of_taken (Or.inr howner), ?_⟩
  intro hbacking hunclaimed hempty
  exact exists_creating (hbacking.claim hunclaimed hempty) key.minimumBalance_ne_zero

/-- The address of the marker of the example. -/
def exampleTarget : Key := Store.exampleAddress (.marker Ledger.exampleMessage.key)

def examplePayer : Key := .filled 32 7

/-- Makes an account for the marker of the example. -/
def exampleCreating (target : Key) : Store.Edit Rejection Unit :=
  creating Store.exampleScheme Store.exampleCommit.call target examplePayer
    (RecordKey.marker Ledger.exampleMessage.key).space (RecordKey.marker Ledger.exampleMessage.key).seeds 253

/-- The call that commits the message of the example brings what it takes. -/
theorem exampleBacking :
    Backing Store.exampleScheme Store.exampleCommit.call Store.examplePrefunded exampleTarget examplePayer
      (RecordKey.marker Ledger.exampleMessage.key).space
      (RecordKey.marker Ledger.exampleMessage.key).seeds 253 where
  vouched := by decide +kernel
  writable := by decide +kernel
  signed := by decide +kernel
  pays := by decide +kernel
  other := by decide +kernel
  funded := Or.inr (by decide +kernel)

/-- Somebody has sent 1000 lamports to the address, and the payer pays as much less. The account of the
gate's own program is refused. -/
theorem made_whatever_was_sent_prefunded :
    Store.examplePrefunded.balance exampleTarget = 1000 ∧
      (∃ made, (exampleCreating exampleTarget).perform Store.examplePrefunded = (.value (), made) ∧
        made.balance exampleTarget = 1343280 ∧
        made.balance examplePayer + 1342280 = Store.examplePrefunded.balance examplePayer) ∧
      (exampleCreating .gate).perform Store.examplePrefunded =
        (⟨[.recordExists .gate], .error (.gate .alreadyExists)⟩, Store.examplePrefunded) := by
  have hsent : Store.examplePrefunded.balance exampleTarget = 1000 := by decide +kernel
  have hrequired : (minimumBalance (RecordKey.marker Ledger.exampleMessage.key).space).toNat = 1343280 := by
    decide +kernel
  obtain ⟨-, hmakes⟩ := made_whatever_was_sent _ _ _ _ _ (.marker Ledger.exampleMessage.key) _ _
  obtain ⟨made, hmade, hacquired⟩ := hmakes exampleBacking (by decide +kernel) (by decide +kernel)
  obtain ⟨hrefuses, -⟩ := made_whatever_was_sent _ _ Store.examplePrefunded .gate _
    (.marker Ledger.exampleMessage.key) _ _
  refine ⟨hsent, ⟨made, hmade, ?_, ?_⟩, hrefuses (by decide +kernel)⟩
  · rw [hacquired.balance_eq, hsent, hrequired]
    rfl
  · have hpaid := hacquired.paid examplePayer
    rw [if_pos rfl, if_neg exampleBacking.other, hrequired, hsent] at hpaid
    exact hpaid

/-! ## Markers -/

/-- A marker is found at an address, and keeps every other record from being made there. -/
structure Occupied (store : Store) (program address : Key) (marker : Marker) : Prop where
  found : (store.account address).loadOptional Marker program = .ok (some marker)
  refused : ∀ scheme inv payer space seeds bump, inv.program = program →
    (creating scheme inv address payer space seeds bump).perform store =
      (⟨[.recordExists address], .error (.gate .alreadyExists)⟩, store)

theorem isLive_of_found (h : (store.account address).loadOptional Marker program = .ok (some marker)) :
    (store.account address).isLive program = true := by
  unfold Account.loadOptional at h
  split at h
  · assumption
  · cases h

theorem occupied_of_found (h : (store.account address).loadOptional Marker program = .ok (some marker)) :
    Occupied store program address marker := by
  refine ⟨h, fun scheme inv payer space seeds bump hprogram => creating_of_taken (Or.inl ?_)⟩
  rw [hprogram]
  exact isLive_of_found h

theorem occupied_of_writeRecord (howned : (made.account address).owner = program)
    (h : Access.writeRecord made address marker = .ok written) : Occupied written program address marker := by
  obtain ⟨data, hdata, rfl⟩ := Access.writeRecord_eq_ok.1 h
  refine occupied_of_found ?_
  rw [Store.account_put_self]
  exact Account.loadOptional_of_decode howned (Record.decode_of_write Marker.lawful_codec trivial hdata)

/-- An account was closed, and another one got all it had. -/
structure Released (before after : Store) (address destination : Key) : Prop where
  closed : after.account address =
    { before.account address with owner := .system, lamports := 0, data := [] }
  /-- The other one has all of the balance, and nobody else's balance has changed. -/
  credited : before.Pays after address destination (before.balance address)
  /-- Of the one that is credited, owner and data are as before. -/
  others : before.ChangesOnly after address

theorem released_of_close (hother : destination ≠ address)
    (h : close store address destination = .ok after) : Released store after address destination := by
  have hpays := pays_close hother h
  obtain ⟨-, rfl⟩ := (close_eq_ok hother).1 h
  refine ⟨Store.account_put_self _ _ _, hpays, ?_⟩
  intro other hne
  rw [Store.account_put_of_ne _ hne]
  exact store.account_put_lamports destination _ other

/-- An address is free, and stays so when something is sent there: no marker is found at it, and whoever
brings what it takes has the account of a record made. -/
def Vacant (store : Store) (address : Key) : Prop :=
  ∀ later : Store, (∃ lamports, later.account address = { store.account address with lamports }) →
    (∀ program, (later.account address).loadOptional Marker program = .ok none) ∧
      ∀ scheme inv payer (key : RecordKey) seeds bump,
        Backing scheme inv later address payer key.space seeds bump →
          ∃ made, (creating scheme inv address payer key.space seeds bump).perform later =
              (.value (), made) ∧
            Acquired later made inv.program address payer key.space

theorem vacant_of_unclaimed (hunclaimed : (store.account address).owner = .system)
    (hempty : (store.account address).data = []) : Vacant store address := by
  rintro later ⟨lamports, hlater⟩
  have howner : (later.account address).owner = .system := by rw [hlater, hunclaimed]
  have hdata : (later.account address).data = [] := by rw [hlater, hempty]
  constructor
  · intro program
    have hlive : ¬(later.account address).isLive program = true := by simp [Account.isLive, hdata]
    rw [Account.loadOptional, if_neg hlive]
  · intro scheme inv payer key seeds bump hbacking
    exact exists_creating (hbacking.claim howner hdata) key.minimumBalance_ne_zero

/-- The account of a marker can be made at an address that nobody has claimed, whatever was sent there, and
the marker can be written; then it is found and nobody can make the account again. Closing it in favour of
another account either fails because the balance of that one would overflow, and changes nothing, or gives
that one all there is and leaves the address free, whatever is sent there afterwards. -/
theorem markers_come_and_go
    (hbacking : Backing scheme inv store address payer (RecordKind.tagSize + Marker.size) seeds bump)
    (hunclaimed : (store.account address).owner = .system) (hempty : (store.account address).data = [])
    (marker : Marker) :
    ∃ made written,
      (creating scheme inv address payer (RecordKind.tagSize + Marker.size) seeds bump).perform store =
          (.value (), made) ∧
        Access.writeRecord made address marker = .ok written ∧
        Occupied written inv.program address marker ∧
        ∀ destination, destination ≠ address →
          UInt64.size ≤ written.balance destination + written.balance address ∧
              (closing address destination).perform written =
                (.fail (.host .arithmeticOverflow), written) ∨
            written.balance destination + written.balance address < UInt64.size ∧
              ∃ closed, (closing address destination).perform written = (.value (), closed) ∧
                Released written closed address destination ∧ Vacant closed address := by
  have hspace := (RecordKey.marker ⟨marker.source, marker.txId⟩).minimumBalance_ne_zero
  -- the zeros that the account is made with are as many as the marker takes
  obtain ⟨made, hmade, hacquired⟩ := exists_creating (hbacking.claim hunclaimed hempty) hspace
  have hroom : (Record.encode marker).length ≤ (made.account address).data.length := by
    rw [hacquired.zeros, List.length_replicate, length_encode_marker]
  obtain ⟨written, hwritten, -⟩ := Access.exists_writeRecord hroom
  refine ⟨made, written, hmade, hwritten, occupied_of_writeRecord hacquired.owned hwritten, ?_⟩
  intro destination hother
  rcases Nat.lt_or_ge (written.balance destination + written.balance address) UInt64.size with
    hfits | hoverflow
  · refine Or.inr ⟨hfits, ?_⟩
    have hclose := (close_eq_ok hother).2 ⟨hfits, rfl⟩
    have hreleased := released_of_close hother hclose
    refine ⟨_, closing_of_close hclose, hreleased, vacant_of_unclaimed ?_ ?_⟩
    · rw [hreleased.closed]
    · rw [hreleased.closed]
  · exact Or.inl ⟨hoverflow, closing_of_overflow (Nat.not_lt_of_ge hoverflow)⟩

def exampleMarker : Marker := { txId := 1, source := 43113, digest := .filled 32 8, bump := 253 }

/-- The account is made at an address to which somebody has sent lamports, and closed in favour of who paid
for it. -/
theorem markers_come_and_go_prefunded :
    ∃ made written closed,
      (exampleCreating exampleTarget).perform Store.examplePrefunded = (.value (), made) ∧
        Access.writeRecord made exampleTarget exampleMarker = .ok written ∧
        Occupied written .gate exampleTarget exampleMarker ∧
        (closing exampleTarget examplePayer).perform written = (.value (), closed) ∧
        closed.account exampleTarget = {} ∧
        closed.balance examplePayer = Store.examplePrefunded.balance examplePayer + 1000 ∧
        Vacant closed exampleTarget := by
  obtain ⟨made, written, hmade, hwritten, hoccupied, hcloses⟩ :=
    markers_come_and_go exampleBacking (by decide +kernel) (by decide +kernel) exampleMarker
  change (exampleCreating exampleTarget).perform Store.examplePrefunded = _ at hmade
  have hstored : (Access.writeRecord ((exampleCreating exampleTarget).perform Store.examplePrefunded).2
      exampleTarget exampleMarker).map (fun store =>
        (store.balance examplePayer, store.balance exampleTarget, (store.account exampleTarget).executable)) =
      .ok (9998657720, 1343280, false) := by
    decide +kernel
  rw [hmade, hwritten] at hstored
  obtain ⟨hpayer, hrest⟩ := Prod.mk.inj (Except.ok.inj hstored)
  obtain ⟨htarget, hprogram⟩ := Prod.mk.inj hrest
  rcases hcloses examplePayer exampleBacking.other with
    ⟨hoverflow, -⟩ | ⟨-, closed, hclosed, hreleased, hvacant⟩
  · rw [hpayer, htarget] at hoverflow
    exact absurd hoverflow (by decide)
  · refine ⟨made, written, closed, hmade, hwritten, hoccupied, hclosed, ?_, ?_, hvacant⟩
    · simp only [hreleased.closed, hprogram]
    · have hcredited := hreleased.credited examplePayer
      rw [if_neg exampleBacking.other, if_pos rfl, hpayer, htarget] at hcredited
      exact hcredited

end RecordAccount

end RelayGate
