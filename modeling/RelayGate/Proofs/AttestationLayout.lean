import RelayGate.Proofs.AttestationReading
import RelayGate.Proofs.ShownInstructions

/-!
# Checks by the numbers at their places

What the data of a checking instruction attest can be told from the numbers at fixed places in them
(`Bytes.wordAt`), without going through the records one after another: which records are about the very
instruction (`PointsHere`), whether all that such a record points to lies inside the data, and what it
is (`PointsTo`). Reading the data arrives at the same (`parse_reads_records`). Where records point is
free: into the header, into each other, to one place several times. Records about other instructions
may point anywhere.
-/

namespace RelayGate

/-! ## Places -/

namespace Bytes

variable {data piece : Bytes} {start len : Nat}

/-- The number in the two bytes at a place, the less significant one first. Behind the end of the data
there are zeros. -/
def wordAt (data : Bytes) (place : Nat) : Nat :=
  (data.getD place 0).toNat + 256 * (data.getD (place + 1) 0).toNat

theorem decode_word (data : Bytes) (place : Nat) :
    LittleEndian.decode ((data.drop place).take 2) = wordAt data place := by
  have hlow : data.getD place 0 = (data.drop place).getD 0 0 := by simp [List.getD_eq_getElem?_getD]
  have hhigh : data.getD (place + 1) 0 = (data.drop place).getD 1 0 := by
    simp [List.getD_eq_getElem?_getD]
  rw [wordAt, hlow, hhigh]
  rcases data.drop place with _ | ⟨low, _ | ⟨high, rest⟩⟩ <;> simp [LittleEndian.decode]

/-- A number in a part of the data is the number at its place in the data. -/
theorem decode_word_of_slice {offset : Nat} (hinside : offset + 2 ≤ len) :
    LittleEndian.decode ((((data.drop start).take len).drop offset).take 2) =
      wordAt data (start + offset) := by
  have hlen : min 2 (len - offset) = 2 := by omega
  rw [List.drop_take, List.drop_drop, List.take_take, hlen, decode_word]

theorem at_take_drop (h : start + len ≤ data.length) :
    At data start ((data.drop start).take len) := by
  refine ⟨data.take start, data.drop (start + len), ?_, ?_⟩
  · rw [← List.drop_drop, List.take_append_drop, List.take_append_drop]
  · rw [List.length_take, Nat.min_eq_left (by omega)]

/-- Where the data reach far enough, some piece of a length stands. -/
theorem exists_at (h : start + len ≤ data.length) :
    ∃ piece, At data start piece ∧ piece.length = len := by
  refine ⟨_, at_take_drop h, ?_⟩
  rw [List.length_take, List.length_drop]
  omega

/-- At one place there is one piece of a length. -/
theorem At.unique {other : Bytes} (h : At data start piece) (h' : At data start other)
    (hlen : piece.length = other.length) : piece = other := by
  rw [← h.take_drop rfl, ← h'.take_drop rfl, hlen]

theorem slice?_eq_some :
    slice? data start len = some piece ↔ At data start piece ∧ piece.length = len := by
  constructor
  · intro h
    obtain ⟨hinside, hpiece⟩ := Option.ite_none_right_eq_some.1 h
    exact ⟨Option.some.inj hpiece ▸ at_take_drop hinside, length_of_slice? h⟩
  · rintro ⟨hat, hlen⟩
    exact hat.slice? hlen

end Bytes

theorem FixedBytes.slice?_eq_some {n start : Nat} {data : Bytes} {a : FixedBytes n} :
    slice? n data start = some a ↔ Bytes.At data start a.bytes := by
  constructor
  · intro h
    unfold slice? at h
    split at h
    · next piece hpiece =>
      obtain rfl := Option.some.inj h
      exact (Bytes.slice?_eq_some.1 hpiece).1
    · cases h
  · exact slice?_of_at

namespace Attestation

open Bytes (At wordAt)

variable {data : Bytes} {a : Attestation} {e : Entry} {n : Nat}

/-! ## Records -/

/-- The place of a record: behind the count and the padding, each record takes fourteen bytes. -/
def recordAt (n : Nat) : Nat := 2 + 14 * n

/-- The signature, the key and the message of a record are all in the very instruction. -/
def PointsHere (data : Bytes) (n : Nat) : Prop :=
  wordAt data (recordAt n + 2) = 65535 ∧ wordAt data (recordAt n + 6) = 65535 ∧
    wordAt data (recordAt n + 12) = 65535

/-- The data end before all that a record points to: its signature, its key or its message. -/
def PointsOutside (data : Bytes) (n : Nat) : Prop :=
  data.length < wordAt data (recordAt n) + 64 ∨ data.length < wordAt data (recordAt n + 4) + 32 ∨
    data.length < wordAt data (recordAt n + 8) + wordAt data (recordAt n + 10)

/-- The attestation is what a record points to. -/
structure PointsTo (data : Bytes) (n : Nat) (a : Attestation) : Prop where
  signature : At data (wordAt data (recordAt n)) a.signature.bytes
  signer : At data (wordAt data (recordAt n + 4)) a.signer.bytes
  message : At data (wordAt data (recordAt n + 8)) a.message
  size : a.message.length = wordAt data (recordAt n + 10)

instance : DecidablePred (PointsHere data) := fun _ => inferInstanceAs (Decidable (_ ∧ _ ∧ _))

instance : DecidablePred (PointsOutside data) := fun _ => inferInstanceAs (Decidable (_ ∨ _ ∨ _))

/-- The numbers of a record. -/
def recordOf (data : Bytes) (n : Nat) : Entry :=
  { signatureAt := wordAt data (recordAt n), signatureIn := wordAt data (recordAt n + 2)
    keyAt := wordAt data (recordAt n + 4), keyIn := wordAt data (recordAt n + 6)
    messageAt := wordAt data (recordAt n + 8), messageSize := wordAt data (recordAt n + 10)
    messageIn := wordAt data (recordAt n + 12) }

theorem read?_eq_some :
    Entry.read? data n = some e ↔ recordAt n + 14 ≤ data.length ∧ recordOf data n = e := by
  have hplace : headerSize + entrySize * n = recordAt n := rfl
  have hsize : entrySize = 14 := rfl
  rw [Entry.read?, hplace, hsize, Bytes.slice?]
  split
  · next hinside =>
    have hfield : ∀ k, 2 * k + 2 ≤ 14 →
        LittleEndian.decode ((((data.drop (recordAt n)).take 14).drop (2 * k)).take 2) =
          wordAt data (recordAt n + 2 * k) :=
      fun _ hk => Bytes.decode_word_of_slice hk
    dsimp only [Option.map_some]
    rw [hfield 0 (by omega), hfield 1 (by omega), hfield 2 (by omega), hfield 3 (by omega),
      hfield 4 (by omega), hfield 5 (by omega), hfield 6 (by omega), Option.some.injEq]
    exact (and_iff_right hinside).symm
  · next houtside =>
    constructor
    · intro h
      cases h
    · intro h
      exact absurd h.1 houtside

theorem isLocal_recordOf : (recordOf data n).isLocal = true ↔ PointsHere data n := by
  simp only [Entry.isLocal, recordOf, here, PointsHere, Bool.and_eq_true, beq_iff_eq, and_assoc]

theorem attestation?_recordOf : (recordOf data n).attestation? data = some a ↔ PointsTo data n a := by
  simp only [Entry.attestation?, recordOf, Option.bind_eq_bind, Option.bind_eq_some_iff,
    FixedBytes.slice?_eq_some, Bytes.slice?_eq_some, Option.pure_def, Option.some.injEq]
  constructor
  · rintro ⟨signature, hsignature, signer, hsigner, message, ⟨hmessage, hsize⟩, rfl⟩
    exact ⟨hsignature, hsigner, hmessage, hsize⟩
  · rintro ⟨hsignature, hsigner, hmessage, hsize⟩
    exact ⟨_, hsignature, _, hsigner, _, ⟨hmessage, hsize⟩, rfl⟩

theorem PointsTo.unique {b : Attestation} (ha : PointsTo data n a) (hb : PointsTo data n b) : a = b := by
  have hsignature : a.signature = b.signature := FixedBytes.ext <|
    ha.signature.unique hb.signature (a.signature.length_bytes.trans b.signature.length_bytes.symm)
  have hsigner : a.signer = b.signer := FixedBytes.ext <|
    ha.signer.unique hb.signer (a.signer.length_bytes.trans b.signer.length_bytes.symm)
  have hmessage : a.message = b.message := ha.message.unique hb.message (ha.size.trans hb.size.symm)
  exact (Attestation.mk.injEq ..).mpr ⟨hsigner, hsignature, hmessage⟩

/-- A record points to something exactly when it does not point outside. -/
theorem exists_pointsTo : (∃ a, PointsTo data n a) ↔ ¬PointsOutside data n := by
  constructor
  · rintro ⟨a, h⟩
    have hsignature := h.signature.le_length
    have hsigner := h.signer.le_length
    have hmessage := h.message.le_length
    rw [a.signature.length_bytes] at hsignature
    rw [a.signer.length_bytes] at hsigner
    rw [h.size] at hmessage
    rintro (houtside | houtside | houtside) <;> omega
  · intro hinside
    simp only [PointsOutside, not_or, Nat.not_lt] at hinside
    obtain ⟨signature, hsignature, hsignatureSize⟩ := Bytes.exists_at hinside.1
    obtain ⟨signer, hsigner, hsignerSize⟩ := Bytes.exists_at hinside.2.1
    obtain ⟨message, hmessage, hmessageSize⟩ := Bytes.exists_at hinside.2.2
    exact ⟨{ signature := ⟨signature, hsignatureSize⟩, signer := ⟨signer, hsignerSize⟩, message },
      hsignature, hsigner, hmessage, hmessageSize⟩

/-- A record can be read when it lies inside the data and, if it is about the very instruction, does not
point outside. -/
theorem readable_iff :
    Readable data n ↔ recordAt n + 14 ≤ data.length ∧ (PointsHere data n → ¬PointsOutside data n) := by
  constructor
  · rintro ⟨e, hread, hlocal⟩
    obtain ⟨hinside, rfl⟩ := read?_eq_some.1 hread
    refine ⟨hinside, fun hhere => exists_pointsTo.1 ?_⟩
    obtain ⟨a, ha⟩ := hlocal (isLocal_recordOf.2 hhere)
    exact ⟨a, attestation?_recordOf.1 ha⟩
  · rintro ⟨hinside, hpoints⟩
    refine ⟨recordOf data n, read?_eq_some.2 ⟨hinside, rfl⟩, fun hlocal => ?_⟩
    obtain ⟨a, ha⟩ := exists_pointsTo.2 (hpoints (isLocal_recordOf.1 hlocal))
    exact ⟨a, attestation?_recordOf.2 ha⟩

/-! ## Lists of checks -/

/-- What records attest, one by one: those that are about the very instruction what they point to, and
the others nothing. -/
theorem forall₂_attested {ns : List Nat} (h : ∀ n ∈ ns, Readable data n) :
    List.Forall₂ (PointsTo data) (ns.filter (PointsHere data ·)) (ns.filterMap (attested? data)) := by
  induction ns with
  | nil => exact .nil
  | cons n rest ih =>
    rw [List.forall_mem_cons] at h
    obtain ⟨⟨e, hread, hlocal⟩, hrest⟩ := h
    obtain ⟨hinside, rfl⟩ := read?_eq_some.1 hread
    by_cases hhere : PointsHere data n
    · obtain ⟨a, ha⟩ := hlocal (isLocal_recordOf.2 hhere)
      have hattested : attested? data n = some a :=
        attested?_eq_some.2 ⟨_, hread, isLocal_recordOf.2 hhere, ha⟩
      rw [List.filter_cons_of_pos (by simpa using hhere), List.filterMap_cons_some hattested]
      exact .cons (attestation?_recordOf.1 ha) (ih hrest)
    · have hattested : attested? data n = none := by
        rw [attested?, hread, Option.bind_some, if_neg (fun hlocal => hhere (isLocal_recordOf.1 hlocal))]
      rw [List.filter_cons_of_neg (by simpa using hhere), List.filterMap_cons_none hattested]
      exact ih hrest

/-- How many records the data announce. -/
def announced (data : Bytes) : Nat := (data.headD 0).toNat

/-- The data are no list of checks: there is not even a count, or one of the records that they announce
is cut off, or is about the very instruction and points outside the data. -/
def IllFormed (data : Bytes) : Prop :=
  data = [] ∨ ∃ n < announced data,
    data.length < recordAt n + 14 ∨ PointsHere data n ∧ PointsOutside data n

instance : Decidable (IllFormed data) := inferInstanceAs (Decidable (_ ∨ _))

theorem not_illFormed : ¬IllFormed data ↔ data ≠ [] ∧ ∀ n < announced data, Readable data n := by
  simp only [IllFormed, readable_iff, not_or, not_exists, not_and, Nat.not_lt]

theorem outcome_parse_eq_ok_iff {attestations : List Attestation} :
    (parse data).outcome = .ok attestations ↔
      ¬IllFormed data ∧ (List.range (announced data)).filterMap (attested? data) = attestations := by
  rw [outcome_parse_eq_ok, not_illFormed]
  cases data with
  | nil =>
    constructor
    · rintro ⟨_, hcount, -⟩
      cases hcount
    · rintro ⟨⟨hne, -⟩, -⟩
      exact absurd rfl hne
  | cons count rest =>
    have hannounced : announced (count :: rest) = count.toNat := rfl
    rw [hannounced]
    constructor
    · rintro ⟨_, hcount, hreadable, hlist⟩
      obtain rfl := Option.some.inj hcount
      exact ⟨⟨List.cons_ne_nil _ _, hreadable⟩, hlist⟩
    · rintro ⟨⟨-, hreadable⟩, hlist⟩
      exact ⟨count, rfl, hreadable, hlist⟩

/-- The data are refused exactly when they are ill-formed. Otherwise they attest, in the order of the
records, what each record that is about the very instruction points to, and nothing for the others. -/
theorem parse_reads_records (data : Bytes) :
    ((parse data).outcome = .error .malformed ↔ IllFormed data) ∧
      ∀ attestations, (parse data).outcome = .ok attestations ↔
        ¬IllFormed data ∧
          List.Forall₂ (PointsTo data) ((List.range (announced data)).filter (PointsHere data ·))
            attestations := by
  constructor
  · constructor
    · intro herror
      by_contra hformed
      have hok := outcome_parse_eq_ok_iff.2 ⟨hformed, rfl⟩
      rw [herror] at hok
      cases hok
    · intro hill
      cases houtcome : (parse data).outcome with
      | error e => cases e; rfl
      | ok attestations => exact absurd hill (outcome_parse_eq_ok_iff.1 houtcome).1
  · intro attestations
    rw [outcome_parse_eq_ok_iff]
    refine and_congr_right fun hformed => ?_
    have hlist : List.Forall₂ (PointsTo data) ((List.range (announced data)).filter (PointsHere data ·))
        ((List.range (announced data)).filterMap (attested? data)) :=
      forall₂_attested fun n hn => (not_illFormed.1 hformed).2 n (List.mem_range.1 hn)
    constructor
    · rintro rfl
      exact hlist
    · intro hother
      have hunique : Relator.RightUnique (PointsTo data) := fun _ _ _ => PointsTo.unique
      exact hunique.forall₂ hlist hother

/-- Two records in seventy bytes. The first one is about another instruction and points far outside. The
second one has a signature that starts with the count and reaches over both records, a key at the very
end, and an empty message. -/
def exampleOverlapping (messageAt : Nat) : Bytes :=
  let foreign : Entry :=
    { signatureAt := 65535, signatureIn := here, keyAt := 65535, keyIn := here,
      messageAt := 65535, messageSize := 65535, messageIn := 0 }
  let overlapping : Entry :=
    { signatureAt := 0, signatureIn := here, keyAt := 38, keyIn := here,
      messageAt, messageSize := 0, messageIn := here }
  [2, 0] ++ foreign.encode ++ overlapping.encode ++ List.replicate 40 7

/-- With the message at the end of the data the second record is read as what it points to. One byte
further, or with the last byte of that record cut off, nothing is read at all. -/
theorem parse_reads_records_to_the_end :
    ¬IllFormed (exampleOverlapping 70) ∧
      (∃ a, (parse (exampleOverlapping 70)).outcome = .ok [a] ∧ PointsTo (exampleOverlapping 70) 1 a) ∧
      (parse (exampleOverlapping 71)).outcome = .error .malformed ∧
      (parse ((exampleOverlapping 70).take 29)).outcome = .error .malformed := by
  have hformed : ¬IllFormed (exampleOverlapping 70) := by decide +kernel
  have hhere : (List.range (announced (exampleOverlapping 70))).filter
      (PointsHere (exampleOverlapping 70) ·) = [1] := by
    decide +kernel
  have hcut : IllFormed ((exampleOverlapping 70).take 29) := by decide +kernel
  have houtside : IllFormed (exampleOverlapping 71) := by decide +kernel
  refine ⟨hformed, ?_, (parse_reads_records _).1.2 houtside, (parse_reads_records _).1.2 hcut⟩
  obtain ⟨hrefused, hread⟩ := parse_reads_records (exampleOverlapping 70)
  cases houtcome : (parse (exampleOverlapping 70)).outcome with
  | error e =>
    cases e
    exact absurd (hrefused.1 houtcome) hformed
  | ok attestations =>
    obtain ⟨-, hlist⟩ := (hread attestations).1 houtcome
    rw [hhere] at hlist
    cases hlist with
    | cons ha hrest =>
      cases hrest
      exact ⟨_, rfl, ha⟩

end Attestation

end RelayGate
