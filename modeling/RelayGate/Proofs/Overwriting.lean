import RelayGate.Proofs.AccountChecks
import RelayGate.Proofs.RecordLayout
import RelayGate.Proofs.RegistryRuns
import RelayGate.Proofs.ShownInstructions

/-!
# Writing over old records

An account keeps its size for as long as it holds a record, while the record may shrink. What is written
over the front of its data is read back whatever is left behind it (`Record.overwrites_of_lawful`).

The account of a registry is made for the most signers there may be, so a registry that is changed always
fits, and the account tells at any time what the registry is then (`Registry.Holds.foldl_amended`). Keys
of signers who have left may still stand behind the record; nothing reads them.
-/

namespace RelayGate

/-! ## Records -/

/-- What can be read as a record is one where its program owns the account. -/
theorem Account.loadOptional_of_decode {α : Type} [Record α] {a : Account} {program : Key} {r : α}
    (howner : a.owner = program) (h : Record.decode α a.data = .ok r) :
    a.loadOptional α program = .ok (some r) := by
  have hdata : a.data ≠ [] := by
    intro hempty
    have htag := congrArg List.length (Record.decode_eq_ok.1 h).1
    rw [hempty, List.take_nil, RecordKind.length_tag] at htag
    cases htag
  rw [loadOptional, if_pos (by simp [isLive, howner, hdata]), h]
  rfl

namespace Record

variable {α : Type} [Record α] {Fits : α → Prop} {data : Bytes} {r : α}

theorem writeOver_of_le (h : (encode r).length ≤ data.length) :
    writeOver data r = (encode r ++ data.drop (encode r).length, .ok ()) := by
  rw [writeOver, Bytes.overwrite, List.take_of_length_le h, ensure, if_pos h]

theorem writeOver_of_lt (h : data.length < (encode r).length) :
    writeOver data r = ((encode r).take data.length, .error (.access .recordTooLong)) := by
  rw [writeOver, Bytes.overwrite, List.drop_of_length_le (Nat.le_of_lt h), List.append_nil, ensure,
    if_neg (Nat.not_le_of_lt h)]

theorem write_of_writeOver (h : (writeOver data r).2 = .ok ()) :
    write data r = .ok (writeOver data r).1 := by
  change ((writeOver data r).2 >>= fun _ => pure (writeOver data r).1) = _
  rw [h]
  rfl

/-- How a record of a type is written over data: in front of what is left of them when it fits, and as
much of it as there is room for when it does not. A record that was written is loaded from its account. -/
structure Overwrites (α : Type) [Record α] (Fits : α → Prop) : Prop where
  succeeds_iff : ∀ data (r : α), (writeOver data r).2 = .ok () ↔ (encode r).length ≤ data.length
  written : ∀ data (r : α), (writeOver data r).2 = .ok () →
    (writeOver data r).1 = encode r ++ data.drop (encode r).length
  loaded : ∀ data (r : α), Fits r → (writeOver data r).2 = .ok () →
    decode α (writeOver data r).1 = .ok r ∧
      ∀ (a : Account) (program : Key), a.owner = program → a.data = (writeOver data r).1 →
        a.loadOptional α program = .ok (some r)
  cut : ∀ data (r : α), data.length < (encode r).length →
    writeOver data r = ((encode r).take data.length, .error (.access .recordTooLong))

theorem overwrites_of_lawful (hc : (codec : Codec α).Lawful Fits) : Overwrites α Fits := by
  have hsucceeds : ∀ data (r : α), (writeOver data r).2 = .ok () ↔ (encode r).length ≤ data.length :=
    fun _ _ => ensure_eq_ok
  have hwritten : ∀ data (r : α), (writeOver data r).2 = .ok () →
      (writeOver data r).1 = encode r ++ data.drop (encode r).length := by
    intro data r h
    rw [writeOver_of_le ((hsucceeds data r).1 h)]
  refine ⟨hsucceeds, hwritten, fun data r hr h => ?_, fun data r h => writeOver_of_lt h⟩
  have hdecode : decode α (writeOver data r).1 = .ok r := by
    rw [hwritten data r h]
    exact decode_encode_append hc hr _
  refine ⟨hdecode, fun a program howner hdata => ?_⟩
  exact Account.loadOptional_of_decode howner (hdata ▸ hdecode)

end Record

/-! ## Registries -/

namespace Registry

variable {r r' : Registry} {data : Bytes} {change : Change}

theorem length_encode (r : Registry) : (Record.encode r).length = space r.signers.length := by
  have hsigners : (r.signers.flatMap FixedBytes.bytes).length = 32 * r.signers.length :=
    Bytes.length_flatMap FixedBytes.length_bytes r.signers
  rw [record_encode]
  simp only [List.length_append, List.length_cons, List.length_nil, RecordKind.length_tag,
    r.authority.length_bytes, LittleEndian.length_encode, hsigners, space, RecordKind.tagSize]

/-- A well-formed registry fits where the most signers would. -/
theorem WellFormed.length_encode_le (hr : r.WellFormed) : (Record.encode r).length ≤ space maxSigners := by
  have hbounded := hr.bounded
  rw [length_encode, space, space]
  omega

theorem WellFormed.fits (hr : r.WellFormed) : r.signers.length < UInt32.size :=
  Nat.lt_of_le_of_lt hr.bounded (by decide)

/-- What a call that changes a registry makes of the data that hold it: the registry is read, changed and
written over them. -/
def amend (data : Bytes) (change : Change) : Except Rejection Bytes := do
  let r ← Record.decode Registry data
  let changed ← r.apply change
  Record.write data changed

theorem amend_eq_ok {data' : Bytes} :
    amend data change = .ok data' ↔
      ∃ r, Record.decode Registry data = .ok r ∧
        ∃ r', r.apply change = .ok r' ∧ Record.write data r' = .ok data' := by
  simp only [amend, except_bind_eq_ok, liftM_gate, mapError_eq_ok]

/-- The data after such a call. One that is refused leaves them as they are. -/
def amended (data : Bytes) (change : Change) : Bytes := (amend data change).toOption.getD data

/-- Data of the size of a registry's account, in which the registry is found. -/
structure Holds (data : Bytes) (r : Registry) : Prop where
  length_eq : data.length = space maxSigners
  decode_eq : Record.decode Registry data = .ok r

/-- A well-formed registry can be written over any data of the right size, which then hold it. -/
theorem WellFormed.holds_writeOver (hr : r.WellFormed) (hdata : data.length = space maxSigners) :
    (Record.writeOver data r).2 = .ok () ∧ Holds (Record.writeOver data r).1 r := by
  have hover := Record.overwrites_of_lawful lawful_codec
  have hwritten := (hover.succeeds_iff data r).2 (hdata ▸ hr.length_encode_le)
  refine ⟨hwritten, ?_, (hover.loaded data r hr.fits hwritten).1⟩
  rw [← hdata]
  exact Bytes.length_overwrite data _

theorem Holds.amend_of_error (h : Holds data r) {e : GateError} (hchange : r.apply change = .error e) :
    amend data change = .error (.gate e) := by
  rw [amend, h.decode_eq]
  change ((r.apply change).mapError Rejection.gate >>= fun r' => Record.write data r') = _
  rw [hchange]
  rfl

/-- What the change makes of the registry has room in the data. -/
theorem Holds.amend_of_ok (h : Holds data r) (hr : r.WellFormed) (hchange : r.apply change = .ok r') :
    amend data change = .ok (Record.writeOver data r').1 :=
  amend_eq_ok.2 ⟨r, h.decode_eq, r', hchange,
    Record.write_of_writeOver ((hr.of_apply hchange).holds_writeOver h.length_eq).1⟩

/-- A call fails only where the registry refuses the change. -/
theorem Holds.amend_eq_error (h : Holds data r) (hr : r.WellFormed) {e : Rejection} :
    amend data change = .error e ↔ ∃ refusal, r.apply change = .error refusal ∧ .gate refusal = e := by
  cases hchange : r.apply change with
  | error refusal => simp [h.amend_of_error hchange]
  | ok r' => simp [h.amend_of_ok hr hchange]

theorem Holds.after (h : Holds data r) (hr : r.WellFormed) (change : Change) :
    Holds (amended data change) (r.step change) := by
  rw [amended]
  cases hchange : r.apply change with
  | error e =>
    rw [h.amend_of_error hchange, step_of_error hchange]
    exact h
  | ok r' =>
    rw [h.amend_of_ok hr hchange, step_of_ok hchange]
    exact ((hr.of_apply hchange).holds_writeOver h.length_eq).2

/-- Through any calls, refused or not, the data hold the registry as the changes make it. -/
theorem Holds.foldl_amended (h : Holds data r) (hr : r.WellFormed) (changes : List Change) :
    Holds (changes.foldl amended data) (r.run changes) := by
  induction changes generalizing data r with
  | nil => exact h
  | cons change rest ih => exact ih (h.after hr change) (hr.step change)

end Registry

/-- When the gate is called to change a registry, this is what becomes of the data of its account. -/
theorem Program.amend_of_changeRegistry {scheme : AddressScheme} {inv : Invocation} {store : Store}
    {layer : Layer} {chain : UInt64} {change : Registry.Change} {out : Outcome}
    (h : (changeRegistry scheme inv store layer chain change).outcome = .ok out) :
    ∃ address r, Opened scheme store (.registry layer chain) address (.registry r) ∧
      Registry.amend (store.account address).data change = .ok (out.store.account address).data := by
  simp only [changeRegistry, Traced.outcome_bind_eq_ok, Traced.outcome_lift, outcome_liftM_gate,
    mapError_eq_ok, Prod.exists, Traced.outcome_say, Traced.outcome_pure, Except.ok.injEq,
    Access.saveRecord_eq_ok, Access.writeRecord_eq_ok, exists_unit_and] at h
  obtain ⟨address, r, hr, r', hchange, -, after, ⟨data, hwrite, rfl⟩, rfl⟩ := h
  obtain ⟨hopened, -, -⟩ := takeOwnRegistry_ok hr
  have hread : Record.decode Registry (store.account address).data = .ok r :=
    StoredRecord.read?_eq_some_stored.1 (Account.slot_eq_holds.1 hopened.slot).2
  refine ⟨address, r, hopened, ?_⟩
  rw [Store.account_put_self]
  exact Registry.amend_eq_ok.2 ⟨r, hread, r', hchange, hwrite⟩

namespace Record

/-- A record of each kind is written over any data that have room for it, and read back from in front of
what is left of them; of a registry, four bytes have to be able to count the signers for that. The space of
a registry is as long as its encoding. So a registry that was made, and changed in any way, fits into an
account that has space for the most signers; and an account in which it was written, and in which each
change was then made by reading and writing over what is there, holds the registry as it is, whatever is
left behind it. There a change is refused by the registry alone. When the gate is called to change a
registry and does, it does just that to the account at the address of the registry. -/
theorem written_over_leftovers :
    (Overwrites Gateway (fun _ => True) ∧ Overwrites Counter (fun _ => True) ∧
        Overwrites Marker (fun _ => True) ∧
        Overwrites Registry fun r => r.signers.length < UInt32.size) ∧
      (∀ r : Registry, (encode r).length = Registry.space r.signers.length) ∧
      (∀ layer chain authority signers threshold bump r,
        Registry.create layer chain authority signers threshold bump = .ok r →
        ∀ data : Bytes, data.length = Registry.space Registry.maxSigners → ∀ changes,
          ((writeOver data (r.run changes)).2 = .ok () ∧
              Registry.Holds (writeOver data (r.run changes)).1 (r.run changes)) ∧
            let kept := changes.foldl Registry.amended (writeOver data r).1
            Registry.Holds kept (r.run changes) ∧
              ∀ change e, Registry.amend kept change = .error e →
                ∃ refusal, (r.run changes).apply change = .error refusal ∧ .gate refusal = e) ∧
      ∀ (scheme : AddressScheme) (inv : Invocation) (store : Store) layer chain change out,
        (Program.changeRegistry scheme inv store layer chain change).outcome = .ok out →
          ∃ address r, Opened scheme store (.registry layer chain) address (.registry r) ∧
            Registry.amend (store.account address).data change = .ok (out.store.account address).data := by
  refine ⟨⟨?_, ?_, ?_, ?_⟩, Registry.length_encode, ?_, ?_⟩
  · exact overwrites_of_lawful Gateway.lawful_codec
  · exact overwrites_of_lawful Counter.lawful_codec
  · exact overwrites_of_lawful Marker.lawful_codec
  · exact overwrites_of_lawful Registry.lawful_codec
  · intro layer chain authority signers threshold bump r hmade data hdata changes
    have hr := Registry.wellFormed_of_create hmade
    have hrun := hr.run changes
    have hkept := (hr.holds_writeOver hdata).2.foldl_amended hr changes
    refine ⟨hrun.holds_writeOver hdata, hkept, ?_⟩
    intro change e hrefused
    exact (hkept.amend_eq_error hrun).1 hrefused
  · intro scheme inv store layer chain change out hchanged
    exact Program.amend_of_changeRegistry hchanged

/-- Two of three signers leave. One of their keys still stands in the data, where nobody reads it. -/
theorem written_over_leftovers_of_two :
    let keys : List Key := [1, 2, 3].map (.filled 32)
    let made : Registry :=
      { layer := .chain, authority := .filled 32 42, signers := keys, threshold := 2, chain := 43113,
        enabled := true, bump := 255 }
    let changes : List Registry.Change := [.replaceSigners (keys.take 1) 1, .setThreshold 2]
    let data : Bytes := List.replicate (Registry.space Registry.maxSigners) 255
    let kept := changes.foldl Registry.amended (writeOver data made).1
    Registry.create .chain 43113 (.filled 32 42) keys 2 255 = .ok made ∧
      data.length = Registry.space Registry.maxSigners ∧
      made.run changes = { made with signers := keys.take 1, threshold := 1 } ∧
      decode Registry kept = .ok (made.run changes) ∧
      (kept.drop 109).take 32 = (FixedBytes.filled 32 3).bytes ∧
      Registry.amend kept (.setThreshold 2) = .error (.gate .thresholdTooHigh) ∧
      (made.run changes).apply (.setThreshold 2) = .error .thresholdTooHigh := by
  intro keys made changes data kept
  have hmade : Registry.create .chain 43113 (.filled 32 42) keys 2 255 = .ok made := by decide +kernel
  have hdata : data.length = Registry.space Registry.maxSigners := List.length_replicate
  obtain ⟨-, -, hregistry, -⟩ := written_over_leftovers
  obtain ⟨-, hkept, hrefused⟩ := hregistry _ _ _ _ _ _ _ hmade data hdata changes
  have hamend : Registry.amend kept (.setThreshold 2) = .error (.gate .thresholdTooHigh) := by
    decide +kernel
  obtain ⟨refusal, happly, hcause⟩ := hrefused _ _ hamend
  refine ⟨hmade, hdata, by decide +kernel, hkept.decode_eq, by decide +kernel, hamend, ?_⟩
  rw [happly]
  cases hcause
  rfl

end Record

end RelayGate
