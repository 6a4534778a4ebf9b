import Mathlib.Logic.Function.Basic
import RelayGate.Access

/-!
# Records in accounts

A record can be read back from whatever it was written over, and no data are a record of two kinds.
So an account of the gate holds at most one record, and a store is, as far as the gate can see, a map
from addresses to `Slot`s: which record is where, and which accounts belong to somebody else.

Main statements: loading succeeds exactly on the record of a slot (`Access.load_eq_ok`,
`Account.slot_of_loadOptional`), and writing changes one slot (`Access.slots_writeRecord`).
-/

namespace RelayGate

/-! ## The data of a record -/

namespace Record

variable {α : Type} [Record α] {data data' : Bytes} {r : α}

theorem decode_eq_ok :
    decode α data = .ok r ↔
      data.take RecordKind.tagSize = (kind α).tag ∧
        ∃ rest, (codec : Codec α).decode (data.drop RecordKind.tagSize) = some (r, rest) := by
  have hlength : data.take RecordKind.tagSize = (kind α).tag → RecordKind.tagSize ≤ data.length := by
    intro htag
    have h := congrArg List.length htag
    rw [List.length_take, RecordKind.length_tag] at h
    omega
  have hbody : decodeBody α data = .ok r ↔
      ∃ rest, (codec : Codec α).decode (data.drop RecordKind.tagSize) = some (r, rest) := by
    unfold decodeBody
    cases (codec : Codec α).decode (data.drop RecordKind.tagSize) with
    | none => simp
    | some read => simp [Prod.ext_iff]
  simp only [decode, except_bind_eq_ok, ensure_eq_ok, exists_const, hbody]
  constructor
  · rintro ⟨-, h⟩
    exact h
  · rintro h
    exact ⟨hlength h.1, h⟩

theorem write_eq_ok :
    write data r = .ok data' ↔
      (encode r).length ≤ data.length ∧ encode r ++ data.drop (encode r).length = data' := by
  simp only [write, writeOver, except_bind_eq_ok, ensure_eq_ok, except_pure_eq_ok, exists_const]
  refine and_congr_right fun h => ?_
  rw [Bytes.overwrite, List.take_of_length_le h]

theorem decode_encode_append {Fits : α → Prop} (hc : (codec : Codec α).Lawful Fits) (hr : Fits r)
    (tail : Bytes) : decode α (encode r ++ tail) = .ok r := by
  refine decode_eq_ok.2 ⟨?_, tail, ?_⟩
  · rw [encode, List.append_assoc, List.take_left' (RecordKind.length_tag _)]
  · rw [encode, List.append_assoc, List.drop_left' (RecordKind.length_tag _)]
    exact hc.decode_encode r hr tail

/-- What stood in the account before does not matter. -/
theorem decode_of_write {Fits : α → Prop} (hc : (codec : Codec α).Lawful Fits) (hr : Fits r)
    (h : write data r = .ok data') : decode α data' = .ok r := by
  obtain ⟨-, rfl⟩ := write_eq_ok.1 h
  exact decode_encode_append hc hr _

theorem fits_of_decode {Fits : α → Prop} (hc : (codec : Codec α).Lawful Fits)
    (h : decode α data = .ok r) : Fits r := by
  obtain ⟨-, rest, hbody⟩ := decode_eq_ok.1 h
  exact (hc.encode_decode _ r rest hbody).1

/-- Data that are read as a record begin as the record is written. -/
theorem encode_prefix_of_decode {Fits : α → Prop} (hc : (codec : Codec α).Lawful Fits)
    (h : decode α data = .ok r) : encode r <+: data := by
  obtain ⟨htag, rest, hbody⟩ := decode_eq_ok.1 h
  refine ⟨rest, ?_⟩
  rw [encode, ← htag, List.append_assoc, ← (hc.encode_decode _ r rest hbody).2, List.take_append_drop]

end Record

theorem Gateway.lawful_codec : codec.Lawful Codec.Always := by
  have hfields := (Codec.lawful_fixed 32).pair <| Codec.lawful_u64.pair <|
    Codec.lawful_bool.pair Codec.lawful_u8
  have h : codec.Lawful _ := hfields.iso (fun _ => rfl) fun _ => rfl
  exact h.congr fun _ => by simp [Codec.Always]

theorem Counter.lawful_codec : codec.Lawful Codec.Always := by
  have hfields := Codec.lawful_u64.pair <| Codec.lawful_u128.pair Codec.lawful_u8
  have h : codec.Lawful _ := hfields.iso (fun _ => rfl) fun _ => rfl
  exact h.congr fun _ => by simp [Codec.Always]

theorem Marker.lawful_codec : codec.Lawful Codec.Always := by
  have hfields := Codec.lawful_u128.pair <| Codec.lawful_u64.pair <|
    (Codec.lawful_fixed 32).pair Codec.lawful_u8
  have h : codec.Lawful _ := hfields.iso (fun _ => rfl) fun _ => rfl
  exact h.congr fun _ => by simp [Codec.Always]

/-- The number of signers has to fit into the four bytes of its field. -/
theorem Registry.lawful_codec : codec.Lawful fun r => r.signers.length < UInt32.size := by
  have hfields := Layer.lawful_codec.pair <| (Codec.lawful_fixed 32).pair <|
    (Codec.lawful_fixed 32).list.pair <| Codec.lawful_u8.pair <| Codec.lawful_u64.pair <|
      Codec.lawful_bool.pair Codec.lawful_u8
  have h : codec.Lawful _ := hfields.iso (fun _ => rfl) fun _ => rfl
  exact h.congr fun _ => by simp [Codec.Always]

/-! ## Records of any kind -/

/-- A record of any kind. -/
inductive StoredRecord where
  | gateway (g : Gateway)
  | counter (c : Counter)
  | marker (m : Marker)
  | registry (r : Registry)
deriving DecidableEq

namespace StoredRecord

/-- What a record is about, as it says itself. -/
def key : StoredRecord → RecordKey
  | gateway g => .gateway g.chain
  | counter c => .counter c.chain
  | marker m => .marker { source := m.source, txId := m.txId }
  | registry r => .registry r.layer r.chain

/-- The bump of its address, as a record says itself. -/
def bump : StoredRecord → UInt8
  | gateway g => g.bump
  | counter c => c.bump
  | marker m => m.bump
  | registry r => r.bump

/-- The kind of a record. -/
def kind : StoredRecord → RecordKind
  | gateway _ => .gateway
  | counter _ => .counter
  | marker _ => .marker
  | registry _ => .registry

/-- The record in the data of an account, where there is one. -/
def read? (data : Bytes) : Option StoredRecord :=
  if data.take RecordKind.tagSize = RecordKind.gateway.tag then
    (Record.decode Gateway data).toOption.map gateway
  else if data.take RecordKind.tagSize = RecordKind.counter.tag then
    (Record.decode Counter data).toOption.map counter
  else if data.take RecordKind.tagSize = RecordKind.marker.tag then
    (Record.decode Marker data).toOption.map marker
  else if data.take RecordKind.tagSize = RecordKind.registry.tag then
    (Record.decode Registry data).toOption.map registry
  else none

theorem tag_of_read? {data : Bytes} {x : StoredRecord} (h : read? data = some x) :
    data.take RecordKind.tagSize = x.kind.tag := by
  unfold read? at h
  split at h
  · next htag =>
    obtain ⟨g, -, rfl⟩ := Option.map_eq_some_iff.1 h
    exact htag
  · split at h
    · next htag =>
      obtain ⟨c, -, rfl⟩ := Option.map_eq_some_iff.1 h
      exact htag
    · split at h
      · next htag =>
        obtain ⟨m, -, rfl⟩ := Option.map_eq_some_iff.1 h
        exact htag
      · split at h
        · next htag =>
          obtain ⟨r, -, rfl⟩ := Option.map_eq_some_iff.1 h
          exact htag
        · cases h

/-- The data of a fresh account are no record. -/
theorem read?_zeros (n : Nat) : read? (List.replicate n 0) = none := by
  by_contra h
  obtain ⟨x, hx⟩ := Option.ne_none_iff_exists'.1 h
  have htag := tag_of_read? hx
  rw [List.take_replicate] at htag
  have hzeros : x.kind.tag.all (· == 0) = true := by
    rw [← htag, List.all_replicate]
    simp
  have hnonzero : ∀ kind : RecordKind, kind.tag.all (· == 0) = false := by
    intro kind
    cases kind <;> rfl
  rw [hnonzero] at hzeros
  cases hzeros

end StoredRecord

/-- One of the four types of records. -/
class Storable (α : Type) [Record α] where
  Fits : α → Prop
  lawful : (Record.codec : Codec α).Lawful Fits
  stored : α → StoredRecord
  stored_injective : ∀ a b, stored a = stored b → a = b
  kind_stored : ∀ a, (stored a).kind = Record.kind α
  read?_of_tag : ∀ data : Bytes, data.take RecordKind.tagSize = (Record.kind α).tag →
    StoredRecord.read? data = (Record.decode α data).toOption.map stored

export Storable (stored)

instance : Storable Gateway where
  Fits := Codec.Always
  lawful := Gateway.lawful_codec
  stored := .gateway
  stored_injective _ _ := StoredRecord.gateway.inj
  kind_stored _ := rfl
  read?_of_tag _ h := if_pos h

instance : Storable Counter where
  Fits := Codec.Always
  lawful := Counter.lawful_codec
  stored := .counter
  stored_injective _ _ := StoredRecord.counter.inj
  kind_stored _ := rfl
  read?_of_tag data h := by
    change data.take RecordKind.tagSize = RecordKind.counter.tag at h
    rw [StoredRecord.read?, if_neg (by rw [h]; decide), if_pos h]

instance : Storable Marker where
  Fits := Codec.Always
  lawful := Marker.lawful_codec
  stored := .marker
  stored_injective _ _ := StoredRecord.marker.inj
  kind_stored _ := rfl
  read?_of_tag data h := by
    change data.take RecordKind.tagSize = RecordKind.marker.tag at h
    rw [StoredRecord.read?, if_neg (by rw [h]; decide), if_neg (by rw [h]; decide), if_pos h]

instance : Storable Registry where
  Fits r := r.signers.length < UInt32.size
  lawful := Registry.lawful_codec
  stored := .registry
  stored_injective _ _ := StoredRecord.registry.inj
  kind_stored _ := rfl
  read?_of_tag data h := by
    change data.take RecordKind.tagSize = RecordKind.registry.tag at h
    rw [StoredRecord.read?, if_neg (by rw [h]; decide), if_neg (by rw [h]; decide),
      if_neg (by rw [h]; decide), if_pos h]

variable {α : Type} [Record α] [Storable α] {data : Bytes} {r : α} {a : Account} {store after : Store}
  {address : Key}

/-- Data are a record of one kind only. -/
theorem StoredRecord.read?_eq_some_stored :
    read? data = some (stored r) ↔ Record.decode α data = .ok r := by
  constructor
  · intro h
    have htag := tag_of_read? h
    rw [Storable.kind_stored] at htag
    rw [Storable.read?_of_tag data htag] at h
    cases hdecode : Record.decode α data with
    | error e =>
      rw [hdecode] at h
      cases h
    | ok r' =>
      rw [hdecode] at h
      rw [Storable.stored_injective r' r (Option.some.inj h)]
  · intro h
    rw [Storable.read?_of_tag data (Record.decode_eq_ok.1 h).1, h]
    rfl

/-! ## Slots -/

/-- What the gate sees of an account: that nobody has claimed it, that another program owns it, that
it is the gate's own and holds no record, or that it holds one. -/
inductive Slot where
  | unclaimed
  | foreign
  | unreadable
  | holds (record : StoredRecord)
deriving DecidableEq

namespace Slot

/-- Whether the account is the gate's own. -/
def isOwn : Slot → Bool
  | unclaimed => false
  | foreign => false
  | unreadable => true
  | holds _ => true

/-- The record of a slot. -/
def record? : Slot → Option StoredRecord
  | holds r => some r
  | _ => none

theorem record?_eq_some {s : Slot} {x : StoredRecord} : s.record? = some x ↔ s = .holds x := by
  cases s <;> simp [record?]

theorem record?_of_not_own {s : Slot} (h : s.isOwn = false) : s.record? = none := by
  cases s with
  | holds r => cases h
  | _ => rfl

end Slot

namespace Account

/-- The slot that an account is. -/
def slot (a : Account) : Slot :=
  if a.owner = .gate then
    match StoredRecord.read? a.data with
    | some x => .holds x
    | none => .unreadable
  else if a.owner = .system then .unclaimed
  else .foreign

theorem isOwn_slot : a.slot.isOwn = true ↔ a.owner = .gate := by
  unfold slot
  split
  · next h => cases StoredRecord.read? a.data <;> simp [Slot.isOwn, h]
  · next h => split <;> simp [Slot.isOwn, h]

theorem slot_eq_unclaimed : a.slot = .unclaimed ↔ a.owner = .system := by
  unfold slot
  split
  · next h =>
    have hsystem : Key.gate ≠ Key.system := by decide
    cases StoredRecord.read? a.data <;> simp [h, hsystem]
  · split <;> simp [*]

theorem slot_eq_holds {x : StoredRecord} :
    a.slot = .holds x ↔ a.owner = .gate ∧ StoredRecord.read? a.data = some x := by
  unfold slot
  split
  · next h => cases StoredRecord.read? a.data <;> simp [h]
  · next h => split <;> simp [h]

/-- The balance of an account does not show. -/
@[simp] theorem slot_with_lamports (a : Account) (lamports : UInt64) :
    { a with lamports }.slot = a.slot := rfl

theorem slot_of_isLive (h : a.isLive .gate = false) : a.slot.record? = none := by
  by_contra hrecord
  obtain ⟨x, hx⟩ := Option.ne_none_iff_exists'.1 hrecord
  obtain ⟨howner, hread⟩ := slot_eq_holds.1 (Slot.record?_eq_some.1 hx)
  have hdata : a.data = [] := by simpa [isLive, howner] using h
  rw [hdata] at hread
  cases (StoredRecord.read?_zeros 0).symm.trans hread

/-- What is loaded where there may be a record is the record there is. -/
theorem slot_of_loadOptional {found : Option α} (h : a.loadOptional α .gate = .ok found) :
    a.slot.record? = found.map stored := by
  unfold loadOptional at h
  split at h
  · next hlive =>
    have howner : a.owner = .gate := by
      simp only [isLive, Bool.and_eq_true, beq_iff_eq] at hlive
      exact hlive.1
    cases hdecode : Record.decode α a.data with
    | error e =>
      rw [hdecode] at h
      cases h
    | ok r =>
      rw [hdecode] at h
      obtain rfl : some r = found := Except.ok.inj h
      exact Slot.record?_eq_some.2
        (slot_eq_holds.2 ⟨howner, StoredRecord.read?_eq_some_stored.2 hdecode⟩)
  · next hlive =>
    obtain rfl : none = found := Except.ok.inj h
    exact slot_of_isLive (Bool.not_eq_true _ ▸ hlive)

end Account

namespace Store

/-- The slots of a store by address. -/
def slots (store : Store) : Key → Slot := fun address => (store.account address).slot

theorem slots_put (store : Store) (address : Key) (a : Account) :
    (store.put address a).slots = Function.update store.slots address a.slot := by
  funext other
  by_cases h : other = address
  · subst h
    simp [slots]
  · rw [Function.update_of_ne h]
    simp only [slots, account_put_of_ne store h]

/-- A change of an account that does not show leaves the slots alone. -/
theorem slots_put_of_eq (h : a.slot = store.slots address) :
    (store.put address a).slots = store.slots := by
  rw [slots_put, h, Function.update_eq_self]

end Store

namespace Access

theorem load_eq_ok {role : Role} :
    load α store address role = .ok r ↔ store.slots address = .holds (stored r) := by
  have hsystem : (Key.gate = Key.system) = False := by decide
  simp only [load, checkOwner, except_bind_eq_ok, ensure_eq_ok, exists_const, mapError_eq_ok]
  rw [Store.slots, Account.slot_eq_holds, StoredRecord.read?_eq_some_stored]
  refine and_congr_left fun _ => ?_
  constructor
  · rintro ⟨-, howner⟩
    exact howner
  · intro howner
    simp [howner, hsystem]

omit [Storable α] in
theorem writeRecord_eq_ok :
    writeRecord store address r = .ok after ↔
      ∃ data, Record.write (store.account address).data r = .ok data ∧
        store.put address { store.account address with data } = after := by
  simp only [writeRecord, except_bind_eq_ok, except_pure_eq_ok]

/-- A record that is written over an account of the gate is what the account holds then. -/
theorem slots_writeRecord (h : writeRecord store address r = .ok after)
    (hown : (store.slots address).isOwn = true) (hr : Storable.Fits r) :
    after.slots = Function.update store.slots address (.holds (stored r)) := by
  obtain ⟨data, hwrite, rfl⟩ := writeRecord_eq_ok.1 h
  have howner : (store.account address).owner = .gate := Account.isOwn_slot.1 hown
  rw [Store.slots_put]
  congr 1
  refine Account.slot_eq_holds.2 ⟨howner, ?_⟩
  exact StoredRecord.read?_eq_some_stored.2 (Record.decode_of_write Storable.lawful hr hwrite)

omit [Storable α] in
theorem saveRecord_eq_ok {role : Role} :
    saveRecord store address r role = .ok after ↔ writeRecord store address r = .ok after :=
  mapError_eq_ok

end Access

end RelayGate
