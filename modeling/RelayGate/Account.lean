import RelayGate.Record
import RelayGate.Table

/-!
# Accounts

An account has an owner, a balance in lamports, data, and perhaps a program. Only its owner may change
its data. An account that nobody has claimed belongs to the system program and is empty; so every
address names an account, and a store lists the ones that differ from that.

An account *holds a record* when the gate owns it and it has data. Anything else at a record's address
counts as no record: lamports sent there, or data of another program.
-/

namespace RelayGate

/-- What the host keeps under an address. -/
structure Account where
  /-- The program that may change the account. -/
  owner : Key := .system
  lamports : UInt64 := 0
  data : Bytes := []
  /-- Whether the account is a program that can be run. -/
  executable : Bool := false
deriving DecidableEq

/-- The accounts of the host by address. -/
abbrev Store := Table Key Account

namespace Store

/-- The account at an address. -/
def account (store : Store) (key : Key) : Account := (store.get? key).getD {}

def put (store : Store) (key : Key) (account : Account) : Store := store.insert key account

@[simp] theorem account_put_self (store : Store) (key : Key) (a : Account) :
    (store.put key a).account key = a := by
  simp [account, put]

theorem account_put_of_ne (store : Store) {key other : Key} (h : other ≠ key) (a : Account) :
    (store.put key a).account other = store.account other := by
  simp [account, put, Table.get?_insert_of_ne store h a]

theorem account_put (store : Store) (key other : Key) (a : Account) :
    (store.put key a).account other = if other = key then a else store.account other := by
  by_cases h : other = key
  · subst h
    simp
  · rw [if_neg h, account_put_of_ne store h]

theorem put_put (store : Store) (key : Key) (a b : Account) :
    (store.put key a).put key b = store.put key b :=
  Table.insert_insert store key a b

/-- The accounts among these that differ in owner, balance or data from what they were before, in the
order of their addresses. -/
def changes (before after : Store) (keys : List Key) : List (Key × Account) :=
  let changed := keys.filter fun key =>
    let a := before.account key
    let b := after.account key
    a.owner != b.owner || a.lamports != b.lamports || a.data != b.data
  (Table.ofList (changed.map fun key => (key, after.account key))).entries

end Store

namespace Account

/-- Whether an account holds a record of a program. -/
def isLive (a : Account) (program : Key) : Bool := a.owner == program && !a.data.isEmpty

/-- The record that an account holds, when it holds one. -/
def loadOptional (α : Type) [Record α] (a : Account) (program : Key) : Except Rejection (Option α) :=
  if a.isLive program then (Record.decode α a.data).map some else .ok none

end Account

/-- The balance that an account of so many bytes has to keep, or it would be charged rent, at the rate that
the host has by default: 6960 lamports for each byte, and 128 bytes for the account itself. -/
def minimumBalance (bytes : Nat) : UInt64 := UInt64.ofNat ((128 + bytes) * 6960)

end RelayGate
