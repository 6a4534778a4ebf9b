import Mathlib.Algebra.BigOperators.Group.Finset.Basic
import Mathlib.Algebra.BigOperators.Group.Finset.Piecewise
import Mathlib.Algebra.GroupWithZero.Nat
import RelayGate.Account

/-!
# Balances

A store lists finitely many accounts, and the others are empty, so that the balances of a store have a
sum. A payment takes from one account what it gives to another one and leaves all other balances alone
(`Store.Pays`), so that the sum stays (`Store.Pays.total_eq`).
-/

namespace RelayGate.Store

variable {store before after : Store} {key source target : Key} {amount : Nat}

/-- The lamports of an account. -/
def balance (store : Store) (key : Key) : Nat := (store.account key).lamports.toNat

/-- The lamports of all accounts together. -/
def total (store : Store) : Nat := (store.entries.map fun e => e.2.lamports.toNat).sum

/-- The addresses of the accounts that are listed. -/
def listed (store : Store) : Finset Key := (store.entries.map Prod.fst).toFinset

theorem nodup_addresses (store : Store) : (store.entries.map Prod.fst).Nodup := by
  refine List.Pairwise.map _ (fun a b hlt hsame => ?_) store.sorted
  rw [hsame] at hlt
  exact Nat.lt_irrefl _ hlt

theorem balance_of_mem {e : Key × Account} (h : e ∈ store.entries) :
    store.balance e.1 = e.2.lamports.toNat := by
  rw [balance, account, Table.mem_entries.1 h]
  rfl

theorem balance_eq_zero (h : key ∉ store.listed) : store.balance key = 0 := by
  unfold balance account
  cases hget : store.get? key with
  | none => rfl
  | some a =>
    have hmem : (key, a) ∈ store.entries := Table.mem_entries.2 hget
    exact absurd (List.mem_toFinset.2 (List.mem_map_of_mem hmem)) h

/-- The balances may be added up over any addresses that include those of the listed accounts. -/
theorem total_eq_sum {keys : Finset Key} (h : store.listed ⊆ keys) :
    store.total = ∑ key ∈ keys, store.balance key := by
  have hlisted : ∑ key ∈ store.listed, store.balance key = store.total := by
    rw [listed, List.sum_toFinset _ store.nodup_addresses, List.map_map, total]
    exact congrArg List.sum (List.map_congr_left fun e he => balance_of_mem he)
  rw [← hlisted]
  exact Finset.sum_subset h fun key _ hkey => balance_eq_zero hkey

/-- One account has paid an amount to another one, and no other balance has changed. -/
def Pays (before after : Store) (source target : Key) (amount : Nat) : Prop :=
  ∀ key, after.balance key + (if key = source then amount else 0) =
    before.balance key + if key = target then amount else 0

/-- A payment neither makes lamports nor loses any. -/
theorem Pays.total_eq (h : before.Pays after source target amount) : after.total = before.total := by
  let keys : Finset Key := before.listed ∪ after.listed ∪ {source, target}
  have hsource : source ∈ keys := by simp [keys]
  have htarget : target ∈ keys := by simp [keys]
  have hbefore : before.listed ⊆ keys := fun key hkey => by simp [keys, hkey]
  have hafter : after.listed ⊆ keys := fun key hkey => by simp [keys, hkey]
  have hsum : ∑ key ∈ keys, (after.balance key + if key = source then amount else 0) =
      ∑ key ∈ keys, (before.balance key + if key = target then amount else 0) :=
    Finset.sum_congr rfl fun key _ => h key
  rw [Finset.sum_add_distrib, Finset.sum_add_distrib, Finset.sum_ite_eq' keys source,
    Finset.sum_ite_eq' keys target, if_pos hsource, if_pos htarget] at hsum
  rw [total_eq_sum hafter, total_eq_sum hbefore]
  exact Nat.add_right_cancel hsum

theorem total_eq_of_balance (h : after.balance = before.balance) : after.total = before.total := by
  have hnothing : before.Pays after .system .system 0 := by
    intro key
    rw [h]
  exact hnothing.total_eq

end RelayGate.Store
