import RelayGate.Proofs.CallEffects
import RelayGate.Transaction

/-!
# Runs of transactions

A run takes a store through transactions. What the gate owns is changed by those whose call succeeds,
and by nothing that others do in between (`Store.SameOwned.await`). Along every run that starts where
the gate owns nothing, each account of the gate holds a record and is the account that is found for
this record (`Reachable.ordered`): records are made nowhere else, and no call changes what a record is
about.
-/

namespace RelayGate

variable {scheme : AddressScheme} {inv : Invocation} {store : Store} {slots : Key → Slot}
  {address : Key} {bump : UInt8} {key : RecordKey} {r : StoredRecord} {x : Slot} {call : Call}
  {out : Program.Outcome} {t : Transaction}

/-! ## Calls of transactions -/

/-- The call that data ask for: a tag, and readable arguments behind it. -/
def Call.ofData? (data : Bytes) : Option Call :=
  (Kind.ofData? data).bind fun kind => kind.decode (data.drop Kind.tagSize)

theorem Program.enter_eq_ok :
    (enter scheme inv store).outcome = .ok out ↔
      inv.program = .gate ∧
        ∃ call, Call.ofData? inv.data = some call ∧ (run scheme inv store call).outcome = .ok out := by
  unfold enter Call.ofData?
  simp only [Traced.outcome_bind_eq_ok, Traced.outcome_lift, ensure_eq_ok, exists_unit_and]
  refine and_congr_right fun _ => ?_
  cases hkind : Call.Kind.ofData? inv.data with
  | none => simp [Traced.outcome_bind_eq_ok]
  | some kind =>
    simp only [Traced.outcome_bind_eq_ok, Traced.outcome_lift, Traced.outcome_say, exists_unit_and,
      Option.bind_some, readArguments]
    cases kind.decode (inv.data.drop Call.Kind.tagSize) <;> simp

namespace Transaction

/-- The call that succeeds when a transaction runs, and what it announces. -/
def completion? (scheme : AddressScheme) (t : Transaction) (store : Store) :
    Option (Call × List Event) :=
  match (t.execute scheme store).outcome, Call.ofData? t.call.data with
  | .ok result, some call => some (call, result.events)
  | _, _ => none

/-- A transaction either completes a call, and has its effect, or only shows the instructions. -/
theorem completion?_cases (scheme : AddressScheme) (t : Transaction) (store : Store) :
    (∃ call out, t.call.program = .gate ∧ Call.ofData? t.call.data = some call ∧
        (Program.run scheme t.call (t.expose store) call).outcome = .ok out ∧
        t.completion? scheme store = some (call, out.events) ∧ t.apply scheme store = out.store) ∨
      t.completion? scheme store = none ∧ t.apply scheme store = t.expose store := by
  unfold completion? apply
  cases houtcome : (t.execute scheme store).outcome with
  | error e => exact Or.inr ⟨rfl, rfl⟩
  | ok out =>
    obtain ⟨hprogram, call, hcall, hrun⟩ := Program.enter_eq_ok.1 houtcome
    refine Or.inl ⟨call, out, hprogram, hcall, hrun, ?_, rfl⟩
    rw [hcall]

theorem slots_expose_instructions (t : Transaction) (store : Store) :
    (t.expose store).slots .instructions = .foreign := by
  rw [expose, Store.slots_put, Function.update_self]
  rfl

end Transaction

/-! ## What others do -/

/-- What the gate owns is the same in two stores. -/
def Store.SameOwned (before after : Store) : Prop :=
  ∀ address, (before.account address).owner = .gate ∨ (after.account address).owner = .gate →
    after.account address = before.account address

namespace Store.SameOwned

variable {middle after : Store} {a : Account}

theorem refl (store : Store) : store.SameOwned store := fun _ _ => rfl

theorem trans (h : store.SameOwned middle) (h' : middle.SameOwned after) : store.SameOwned after := by
  rintro address (hbefore | hafter)
  · have hmiddle := h address (.inl hbefore)
    rw [h' address (.inl (hmiddle ▸ hbefore)), hmiddle]
  · have hmiddle := h' address (.inr hafter)
    rw [hmiddle, h address (.inr (hmiddle ▸ hafter))]

/-- An account may be put where neither the old one nor the new one is the gate's. -/
theorem put (hbefore : (store.account address).owner ≠ .gate) (hafter : a.owner ≠ .gate) :
    store.SameOwned (store.put address a) := by
  intro other hown
  by_cases hother : other = address
  · subst hother
    rw [Store.account_put_self] at hown
    rcases hown with hown | hown
    · exact absurd hown hbefore
    · exact absurd hown hafter
  · exact store.account_put_of_ne hother a

theorem permit (store : Store) (change : Key × Account) : store.SameOwned (store.permit change) := by
  unfold Store.permit
  split
  · exact refl store
  · next hneither =>
    rw [not_or] at hneither
    exact put hneither.1 hneither.2

/-- What others do leaves alone what the gate owns. -/
theorem await (t : Transaction) (store : Store) : store.SameOwned (t.await store) := by
  unfold Transaction.await
  induction t.meanwhile generalizing store with
  | nil => exact refl store
  | cons change rest ih => exact (permit store change).trans (ih (store.permit change))

/-- A slot is the same, or the gate owns nothing there before and after. -/
theorem slots_cases (h : store.SameOwned after) (address : Key) :
    after.slots address = store.slots address ∨
      (store.slots address).isOwn = false ∧ (after.slots address).isOwn = false := by
  by_cases hown : (store.account address).owner = .gate ∨ (after.account address).owner = .gate
  · left
    rw [Store.slots, Store.slots, h address hown]
  · rw [not_or] at hown
    simp only [← Bool.not_eq_true]
    exact .inr ⟨mt Account.isOwn_slot.1 hown.1, mt Account.isOwn_slot.1 hown.2⟩

end Store.SameOwned

/-! ## Runs -/

namespace Store

/-- The store after a run. -/
def after (scheme : AddressScheme) (store : Store) (ts : List Transaction) : Store :=
  ts.foldl (fun s t => t.apply scheme s) store

/-- The calls that succeed in a run, with what they announce, in order. -/
def completions (scheme : AddressScheme) : Store → List Transaction → List (Call × List Event)
  | _, [] => []
  | store, t :: rest =>
    (t.completion? scheme store).toList ++ completions scheme (t.apply scheme store) rest

/-- The gate owns no account. -/
def Unowned (store : Store) : Prop := ∀ address, (store.account address).owner ≠ .gate

/-- A store that transactions can lead to from one where the gate owns nothing, with whatever others do
in between. -/
inductive Reachable (scheme : AddressScheme) : Store → Prop
  | start {store : Store} (h : store.Unowned) : Reachable scheme store
  | step {store : Store} (t : Transaction) (h : Reachable scheme store) :
    Reachable scheme (t.apply scheme store)

/-- It is enough to look at the accounts that are listed. -/
theorem unowned_of_entries (h : ∀ e ∈ store.entries, e.2.owner ≠ .gate) : store.Unowned := by
  intro address
  unfold account
  cases hget : store.get? address with
  | none => decide
  | some a => exact h (address, a) (Table.mem_of_lookup hget)

theorem Unowned.isOwn_slots (h : store.Unowned) (address : Key) :
    (store.slots address).isOwn = false := by
  rw [← Bool.not_eq_true]
  exact mt Account.isOwn_slot.1 (h address)

end Store

/-! ## Where records are -/

/-- Every account of the gate holds a record, and its address and the bump that the record states are
those that are found for what the record is about. What shows the instructions is not the gate's. -/
structure Ordered (scheme : AddressScheme) (slots : Key → Slot) : Prop where
  placed : ∀ address, (slots address).isOwn = true →
    ∃ r, slots address = .holds r ∧ scheme.locate r.key = some (address, r.bump)
  instructions : (slots .instructions).isOwn = false

namespace Ordered

theorem locate_key (h : Ordered scheme slots) (hslot : slots address = .holds r) :
    scheme.locate r.key = some (address, r.bump) := by
  have hown : (slots address).isOwn = true := by rw [hslot]; rfl
  obtain ⟨r', hslot', hlocated⟩ := h.placed address hown
  obtain rfl := Slot.holds.inj (hslot.symm.trans hslot')
  exact hlocated

/-- Records are in order as long as the gate owns the same. -/
theorem sameOwned {after : Store} (h : Ordered scheme store.slots) (hsame : store.SameOwned after) :
    Ordered scheme after.slots where
  placed address hown := by
    rcases hsame.slots_cases address with hslot | ⟨-, hnone⟩
    · rw [hslot] at hown ⊢
      exact h.placed address hown
    · cases hnone.symm.trans hown
  instructions := by
    rcases hsame.slots_cases .instructions with hslot | ⟨-, hnone⟩
    · rw [hslot]
      exact h.instructions
    · exact hnone

theorem of_unowned (h : store.Unowned) : Ordered scheme store.slots where
  placed address hown := by
    rw [h.isOwn_slots] at hown
    cases hown
  instructions := h.isOwn_slots _

/-- A record may be put where it belongs. -/
theorem update_holds (h : Ordered scheme slots) (hother : address ≠ .instructions)
    (hlocated : scheme.locate r.key = some (address, r.bump)) :
    Ordered scheme (Function.update slots address (.holds r)) where
  placed a hown := by
    by_cases ha : a = address
    · subst ha
      exact ⟨r, Function.update_self _ _ _, hlocated⟩
    · rw [Function.update_of_ne ha] at hown ⊢
      exact h.placed a hown
  instructions := by
    rw [Function.update_of_ne hother.symm]
    exact h.instructions

/-- An account may leave the gate. -/
theorem update_of_not_own (h : Ordered scheme slots) (hx : x.isOwn = false) (address : Key) :
    Ordered scheme (Function.update slots address x) where
  placed a hown := by
    by_cases ha : a = address
    · subst ha
      rw [Function.update_self, hx] at hown
      cases hown
    · rw [Function.update_of_ne ha] at hown ⊢
      exact h.placed a hown
  instructions := by
    by_cases ha : Key.instructions = address
    · rw [ha, Function.update_self]
      exact hx
    · rw [Function.update_of_ne ha]
      exact h.instructions

/-- A record may be replaced by one that is about the same, with the same bump. -/
theorem replace {r' : StoredRecord} (h : Ordered scheme slots) (hslot : slots address = .holds r)
    (hkey : r'.key = r.key) (hbump : r'.bump = r.bump) :
    Ordered scheme (Function.update slots address (.holds r')) := by
  have hother : address ≠ .instructions := by
    rintro rfl
    have hown := h.instructions
    rw [hslot] at hown
    cases hown
  refine h.update_holds hother ?_
  rw [hkey, hbump]
  exact h.locate_key hslot

end Ordered

/-- A call that succeeds puts records where they belong, and changes no record into one about something
else. It cannot make one where the instructions are shown. -/
theorem Program.ordered_run (hprogram : inv.program = .gate)
    (hshown : store.slots .instructions = .foreign) (h : Ordered scheme store.slots)
    (hrun : (run scheme inv store call).outcome = .ok out) : Ordered scheme out.store.slots := by
  have hother : ∀ {address : Key}, store.slots address = .unclaimed → address ≠ .instructions := by
    rintro address hunclaimed rfl
    cases hunclaimed.symm.trans hshown
  cases call with
  | createGateway chain =>
    obtain ⟨c, hc, -, hunclaimed, hslots, -⟩ := createGateway_ok hprogram hrun
    rw [hslots]
    exact h.update_holds (hother hunclaimed) hc.located
  | switchGateway enabled =>
    obtain ⟨address, g, hopened, -, hslots, -⟩ := switchGateway_ok hrun
    rw [hslots]
    exact h.replace hopened.slot rfl rfl
  | createCounter source =>
    obtain ⟨c, hc, -, hunclaimed, hslots, -⟩ := createCounter_ok hprogram hrun
    rw [hslots]
    exact h.update_holds (hother hunclaimed) hc.located
  | createRegistry layer chain signers threshold =>
    obtain ⟨c, r, hc, hr, hunclaimed, hslots, -⟩ := createRegistry_ok hprogram hrun
    obtain ⟨-, -, rfl⟩ := Registry.create_eq_ok.1 hr
    rw [hslots]
    exact h.update_holds (hother hunclaimed) hc.located
  | changeRegistry layer chain change =>
    obtain ⟨address, r, r', hopened, -, -, hchange, hslots, -⟩ := changeRegistry_ok hrun
    have hsame := Registry.sameOffice_of_apply hchange
    rw [hslots]
    refine h.replace hopened.slot ?_ hsame.bump_eq
    rw [StoredRecord.key, StoredRecord.key, hsame.layer_eq, hsame.chain_eq]
  | request txId recipient destination data confirmations =>
    obtain ⟨gatewayAddress, g, sender, -, -, -, -, hstore, -⟩ := request_ok hrun
    rw [hstore]
    exact h
  | commit m signatures =>
    obtain ⟨a, ha, -, hunclaimed, hslots, -⟩ := commit_ok hprogram hrun
    rw [hslots]
    have hmarked : Ordered scheme (Function.update store.slots a.markerAddress
        (.holds (.marker (Delivery.markerOf m a.markerBump)))) :=
      h.update_holds (hother hunclaimed) ha.marker
    have hcounter : a.counterAddress ≠ a.markerAddress := by
      intro hsame
      have hslot := ha.counter.slot
      rw [hsame, hunclaimed] at hslot
      cases hslot
    refine hmarked.replace (r := .counter a.counter) ?_ rfl rfl
    rw [Function.update_of_ne hcounter]
    exact ha.counter.slot
  | settle m signatures =>
    obtain ⟨a, layers, preceding, marker, tally, -, -, -, -, hslots, -⟩ := settle_ok hprogram hrun
    rw [hslots]
    exact h.update_of_not_own rfl _

namespace Transaction

/-- Where records are in order, the account that shows the instructions is not the gate's. -/
theorem sameOwned_expose (t : Transaction) (h : Ordered scheme store.slots) :
    store.SameOwned (t.expose store) := by
  have hawait := Store.SameOwned.await t store
  have hshown : ((t.await store).slots .instructions).isOwn ≠ true := by
    rw [(h.sameOwned hawait).instructions]
    decide
  have hsysvar : Key.sysvar ≠ Key.gate := by decide
  exact hawait.trans (.put (mt Account.isOwn_slot.2 hshown) hsysvar)

theorem ordered_expose (t : Transaction) (h : Ordered scheme store.slots) :
    Ordered scheme (t.expose store).slots :=
  h.sameOwned (t.sameOwned_expose h)

theorem ordered_apply (h : Ordered scheme store.slots) : Ordered scheme (t.apply scheme store).slots := by
  rcases t.completion?_cases scheme store with ⟨call, out, hprogram, -, hrun, -, happly⟩ | ⟨-, happly⟩
  · rw [happly]
    exact Program.ordered_run hprogram (t.slots_expose_instructions store) (t.ordered_expose h) hrun
  · rw [happly]
    exact t.ordered_expose h

end Transaction

theorem Store.Reachable.after (h : Store.Reachable scheme store) (ts : List Transaction) :
    Store.Reachable scheme (store.after scheme ts) := by
  induction ts generalizing store with
  | nil => exact h
  | cons t rest ih => exact ih (h.step t)

theorem Store.Reachable.ordered (h : Store.Reachable scheme store) : Ordered scheme store.slots := by
  induction h with
  | start h => exact Ordered.of_unowned h
  | step t h ih => exact Transaction.ordered_apply ih

end RelayGate
