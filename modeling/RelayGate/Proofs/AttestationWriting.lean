import RelayGate.Proofs.AttestationReading
import RelayGate.Proofs.ShownInstructions

/-!
# Writing checks

The data that have signatures checked over one message are read back as just these signatures over just
this message (`outcome_parse_of_encode?`): each entry points to the key and the signature of its number,
and all of them to the one message. So the instruction with these data attests the signatures it was
made of and nothing else (`verifier_of_instruction?`). The data can be written as long as the count fits
into its byte and all places into their two bytes, and tell what they were written from
(`checks_round_trip`).
-/

namespace RelayGate.Attestation

open Bytes (At)

variable {data message : Bytes} {signatures : List Signature} {s : Signature} {i : Instruction}
  {digest : Digest} {n : Nat}

/-- What is attested of a signature that was checked over a message. -/
def ofSignature (message : Bytes) (s : Signature) : Attestation :=
  { signer := s.signer, signature := s.bytes, message }

/-- The key of a signature, and the signature. -/
def pairOf (s : Signature) : Bytes := s.signer.bytes ++ s.bytes.bytes

theorem length_pairOf (s : Signature) : (pairOf s).length = pairSize := by
  rw [pairOf, List.length_append, s.signer.length_bytes, s.bytes.length_bytes]
  rfl

/-! ## Entries -/

namespace Entry

/-- The entry of a number among those of `count` signatures over a message of a length. -/
def written (count size n : Nat) : Entry :=
  let pairsAt := headerSize + entrySize * count
  { signatureAt := pairsAt + pairSize * n + 32, signatureIn := here,
    keyAt := pairsAt + pairSize * n, keyIn := here,
    messageAt := pairsAt + pairSize * count, messageSize := size, messageIn := here }

theorem isLocal_written (count size n : Nat) : (written count size n).isLocal = true := by
  simp only [isLocal, written, BEq.rfl, Bool.and_self]

/-- Two bytes hold each number of an entry. -/
structure Fits (e : Entry) : Prop where
  signatureAt : e.signatureAt < UInt16.size
  signatureIn : e.signatureIn < UInt16.size
  keyAt : e.keyAt < UInt16.size
  keyIn : e.keyIn < UInt16.size
  messageAt : e.messageAt < UInt16.size
  messageSize : e.messageSize < UInt16.size
  messageIn : e.messageIn < UInt16.size

theorem fits_written {count size : Nat} (hn : n < count)
    (hplaces : headerSize + entrySize * count + pairSize * count + size ≤ 0xffff) :
    (written count size n).Fits := by
  have hsize : UInt16.size = 65536 := rfl
  have hhere : here < UInt16.size := by decide
  have hpair : pairSize * n + pairSize ≤ pairSize * count := Nat.mul_le_mul_left pairSize hn
  have hwide : pairSize = 96 := rfl
  constructor <;> simp only [written] <;> omega

theorem length_encode (e : Entry) : e.encode.length = entrySize :=
  Bytes.length_flatMap (LittleEndian.length_encode 2) _

/-- An entry that stands at the place of its number is read back. -/
theorem read?_of_at {e : Entry} (h : At data (headerSize + entrySize * n) e.encode) (hfits : e.Fits) :
    read? data n = some e := by
  have hfield : ∀ (k v : Nat), [e.signatureAt, e.signatureIn, e.keyAt, e.keyIn, e.messageAt,
      e.messageSize, e.messageIn][k]? = some v → v < UInt16.size →
        LittleEndian.decode ((e.encode.drop (2 * k)).take 2) = v := by
    intro k v hk hv
    have hat := (At.whole e.encode).flatMap (LittleEndian.length_encode 2) hk
    rw [Nat.zero_add] at hat
    rw [hat.take_drop (LittleEndian.length_encode 2 v), LittleEndian.decode_encode_of_lt hv]
  rw [read?, h.slice? e.length_encode]
  dsimp only [Option.map_some]
  rw [hfield 0 _ rfl hfits.signatureAt, hfield 1 _ rfl hfits.signatureIn, hfield 2 _ rfl hfits.keyAt,
    hfield 3 _ rfl hfits.keyIn, hfield 4 _ rfl hfits.messageAt, hfield 5 _ rfl hfits.messageSize,
    hfield 6 _ rfl hfits.messageIn]

end Entry

/-! ## The data -/

theorem encode?_eq_some :
    encode? signatures message = some data ↔
      (signatures.length ≤ 0xff ∧
        headerSize + entrySize * signatures.length + pairSize * signatures.length + message.length ≤
          0xffff) ∧
        [UInt8.ofNat signatures.length, 0] ++
            (List.range signatures.length).flatMap (fun n =>
              (Entry.written signatures.length message.length n).encode) ++
            signatures.flatMap pairOf ++ message = data := by
  unfold encode?
  dsimp only
  rw [Option.ite_none_right_eq_some, Option.some.injEq]
  rfl

/-- The parts of the data that have signatures checked, at their places. -/
structure Written (signatures : List Signature) (message data : Bytes) : Prop where
  count : data.head? = some (UInt8.ofNat signatures.length)
  entries : At data headerSize ((List.range signatures.length).flatMap fun n =>
    (Entry.written signatures.length message.length n).encode)
  pairs : At data (headerSize + entrySize * signatures.length) (signatures.flatMap pairOf)
  message : At data (headerSize + entrySize * signatures.length + pairSize * signatures.length) message

theorem written_of_encode? (h : encode? signatures message = some data) :
    Written signatures message data := by
  obtain ⟨-, rfl⟩ := encode?_eq_some.1 h
  have hall := At.whole ([UInt8.ofNat signatures.length, 0] ++
    (List.range signatures.length).flatMap (fun n =>
      (Entry.written signatures.length message.length n).encode) ++
    signatures.flatMap pairOf ++ message)
  have hentries := hall.left.left.right
  have hpairs := hall.left.right
  have hmessage := hall.right
  simp only [List.length_append, Bytes.length_flatMap (fun n => Entry.length_encode _),
    Bytes.length_flatMap length_pairOf, List.length_range, Nat.zero_add] at hentries hpairs hmessage
  exact ⟨rfl, hentries, hpairs, hmessage⟩

/-- The entry of each signature shows that signature over the message. -/
theorem shows_of_encode? (h : encode? signatures message = some data) (hn : signatures[n]? = some s) :
    Shows data n (ofSignature message s) := by
  have hlt : n < signatures.length := (List.getElem?_eq_some_iff.1 hn).1
  have hw := written_of_encode? h
  have hentry := hw.entries.flatMap (fun n => Entry.length_encode _) (List.getElem?_range hlt)
  have hpair : At data (headerSize + entrySize * signatures.length + pairSize * n) (pairOf s) :=
    hw.pairs.flatMap length_pairOf hn
  rw [pairOf] at hpair
  have hkey := hpair.left
  have hsignature := hpair.right
  rw [s.signer.length_bytes] at hsignature
  refine ⟨Entry.written signatures.length message.length n,
    Entry.read?_of_at hentry (Entry.fits_written hlt (encode?_eq_some.1 h).1.2),
    Entry.isLocal_written _ _ _, ?_⟩
  simp only [Entry.attestation?, Entry.written, FixedBytes.slice?_of_at hsignature,
    FixedBytes.slice?_of_at hkey, hw.message.slice? rfl]
  rfl

/-- What was written is read back: each signature once, in order, over the one message. -/
theorem outcome_parse_of_encode? (h : encode? signatures message = some data) :
    (parse data).outcome = .ok (signatures.map (ofSignature message)) := by
  have hcount : (UInt8.ofNat signatures.length).toNat = signatures.length := by
    have hle := (encode?_eq_some.1 h).1.1
    rw [UInt8.toNat_ofNat', Nat.mod_eq_of_lt (by omega)]
  refine outcome_parse_eq_ok.2 ⟨_, (written_of_encode? h).count, ?_, ?_⟩
  · intro n hn
    rw [hcount] at hn
    obtain ⟨e, hread, hlocal, hshown⟩ := shows_of_encode? h (List.getElem?_eq_getElem hn)
    exact ⟨e, hread, fun _ => ⟨_, hshown⟩⟩
  · rw [hcount]
    have hentries : (List.range signatures.length).map (attested? data) =
        (signatures.map (ofSignature message)).map some := by
      refine List.ext_getElem (by simp) fun n hn hn' => ?_
      simp only [List.length_map, List.length_range] at hn
      simp only [List.getElem_map, List.getElem_range]
      exact attested?_eq_some.2 (shows_of_encode? h (List.getElem?_eq_getElem hn))
    have hvalues := congrArg (List.filterMap id) hentries
    rwa [List.filterMap_map, List.filterMap_map, Function.id_comp, Function.id_comp,
      List.filterMap_some] at hvalues

/-! ## The instruction -/

theorem instruction?_eq_some :
    instruction? signatures message = some i ↔
      ∃ data, encode? signatures message = some data ∧ { program := .ed25519, data } = i :=
  Option.map_eq_some_iff

theorem ofInstruction_of_instruction? (h : instruction? signatures message = some i) :
    ofInstruction i = signatures.map (ofSignature message) := by
  obtain ⟨data, hdata, rfl⟩ := instruction?_eq_some.1 h
  rw [ofInstruction, if_pos rfl, outcome_parse_of_encode? hdata]

/-- The instruction that has signatures checked over a message verifies just these signatures, and only
where the digest is the message. -/
theorem verifier_of_instruction? (h : instruction? signatures message = some i) :
    verifier (ofInstructions [i]) digest s = true ↔ message = digest.bytes ∧ s ∈ signatures := by
  rw [verifier_eq_true_iff_mem, ofInstructions, List.flatMap_singleton, ofInstruction_of_instruction? h,
    List.mem_map]
  constructor
  · rintro ⟨s', hs', heq⟩
    rw [ofSignature, Attestation.mk.injEq] at heq
    obtain ⟨hsigner, hbytes, hmessage⟩ := heq
    obtain rfl : s' = s := (Signature.mk.injEq ..).mpr ⟨hsigner, hbytes⟩
    exact ⟨hmessage, hs'⟩
  · rintro ⟨rfl, hs⟩
    exact ⟨s, hs, rfl⟩

/-- As many signatures as a message may carry can always be checked over a digest. -/
theorem exists_instruction? (hcount : signatures.length ≤ Signature.maxPerMessage) (digest : Digest) :
    ∃ i, instruction? signatures digest.bytes = some i := by
  refine ⟨_, instruction?_eq_some.2 ⟨_, encode?_eq_some.2 ⟨⟨?_, ?_⟩, rfl⟩, rfl⟩⟩
  · have hmax : Signature.maxPerMessage = 8 := rfl
    omega
  · have hmax : Signature.maxPerMessage = 8 := rfl
    have hheader : headerSize = 2 := rfl
    have hentry : entrySize = 14 := rfl
    have hpair : pairSize = 96 := rfl
    rw [digest.length_bytes, hheader, hentry, hpair]
    omega

/-! ## Both directions -/

theorem isSome_encode? :
    (encode? signatures message).isSome = true ↔
      signatures.length ≤ 255 ∧ 2 + 110 * signatures.length + message.length ≤ 65535 := by
  have hsum : headerSize + entrySize * signatures.length + pairSize * signatures.length +
      message.length = 2 + 110 * signatures.length + message.length := by
    simp only [headerSize, entrySize, pairSize]
    omega
  rw [Option.isSome_iff_exists, ← hsum]
  simp only [encode?_eq_some, exists_and_left, exists_eq', and_true]

/-- The message is what stands behind the keys and the signatures. -/
theorem drop_of_encode? (h : encode? signatures message = some data) :
    data.drop (headerSize + entrySize * signatures.length + pairSize * signatures.length) = message := by
  obtain ⟨-, rfl⟩ := encode?_eq_some.1 h
  refine List.drop_left' ?_
  simp only [List.length_append, Bytes.length_flatMap (fun n => Entry.length_encode _),
    Bytes.length_flatMap length_pairOf, List.length_range]
  rfl

theorem ofSignature_injective {s' : Signature} (h : ofSignature message s = ofSignature message s') :
    s = s' := by
  obtain ⟨signer, bytes⟩ := s
  obtain ⟨signer', bytes'⟩ := s'
  obtain ⟨rfl, rfl, -⟩ := Attestation.mk.inj h
  rfl

/-- The data tell what was checked. -/
theorem encode?_injective {signatures' : List Signature} {message' : Bytes}
    (h : encode? signatures message = some data) (h' : encode? signatures' message' = some data) :
    signatures' = signatures ∧ message' = message := by
  have hread : signatures'.map (ofSignature message') = signatures.map (ofSignature message) :=
    Except.ok.inj ((outcome_parse_of_encode? h').symm.trans (outcome_parse_of_encode? h))
  have hcount : signatures'.length = signatures.length := by simpa using congrArg List.length hread
  -- with the counts the places of the messages agree
  have hmessage : message' = message := by rw [← drop_of_encode? h', hcount, drop_of_encode? h]
  subst hmessage
  exact ⟨(List.map_inj_right fun _ _ => ofSignature_injective).1 hread, rfl⟩

/-- The data that have signatures checked over a message can be written exactly as long as one byte holds
their count and two bytes the length of all. What is read from them is each signature in its turn, over
the message; no other signatures or message have the same data; and the instruction with these data
attests the signatures it was made of, for the digest that is the message, and nothing else. -/
theorem checks_round_trip (signatures : List Signature) (message : Bytes) :
    ((encode? signatures message).isSome = true ↔
        signatures.length ≤ 255 ∧ 2 + 110 * signatures.length + message.length ≤ 65535) ∧
      ∀ data, encode? signatures message = some data →
        (parse data).outcome =
            .ok (signatures.map fun s => { signer := s.signer, signature := s.bytes, message }) ∧
          (∀ signatures' message', encode? signatures' message' = some data →
            signatures' = signatures ∧ message' = message) ∧
          ∃ i, instruction? signatures message = some i ∧ i.program = .ed25519 ∧ i.data = data ∧
            ∀ digest s, verifier (ofInstructions [i]) digest s = true ↔
              message = digest.bytes ∧ s ∈ signatures := by
  refine ⟨isSome_encode?, fun data h => ⟨outcome_parse_of_encode? h, ?_, ?_⟩⟩
  · intro signatures' message' h'
    exact encode?_injective h h'
  · have hi : instruction? signatures message = some { program := .ed25519, data } :=
      instruction?_eq_some.2 ⟨data, h, rfl⟩
    exact ⟨_, hi, rfl, rfl, fun digest s => verifier_of_instruction? hi⟩

/-- Two signatures of one signer. -/
def exampleTwice : List Signature :=
  [⟨.filled 32 1, .filled 64 3⟩, ⟨.filled 32 1, .filled 64 4⟩]

/-- Both are read back and attested, a third one is not, and over all but one byte of a digest they attest
nothing for it. An empty list goes with the longest message that two bytes can count; one byte more, or
one signature more than a byte can count, is too much. -/
theorem checks_round_trip_at_limits :
    (∃ data i, encode? exampleTwice (List.replicate 32 5) = some data ∧
        (parse data).outcome =
          .ok [⟨.filled 32 1, .filled 64 3, List.replicate 32 5⟩,
            ⟨.filled 32 1, .filled 64 4, List.replicate 32 5⟩] ∧
        instruction? exampleTwice (List.replicate 32 5) = some i ∧
        verifier (ofInstructions [i]) (.filled 32 5) ⟨.filled 32 1, .filled 64 4⟩ = true ∧
        verifier (ofInstructions [i]) (.filled 32 5) ⟨.filled 32 1, .filled 64 5⟩ = false) ∧
      (∃ i, instruction? exampleTwice (List.replicate 31 5) = some i ∧
        ∀ s, verifier (ofInstructions [i]) (.filled 32 5) s = false) ∧
      (encode? [] (List.replicate 65533 0)).isSome = true ∧
      (encode? [] (List.replicate 65534 0)).isSome = false ∧
      (encode? (List.replicate 256 ⟨.filled 32 1, .filled 64 3⟩) []).isSome = false := by
  obtain ⟨hwritten, hread⟩ := checks_round_trip exampleTwice (List.replicate 32 5)
  obtain ⟨hwrittenShort, hreadShort⟩ := checks_round_trip exampleTwice (List.replicate 31 5)
  obtain ⟨data, hdata⟩ := Option.isSome_iff_exists.1 (hwritten.2 (by decide))
  obtain ⟨short, hshort⟩ := Option.isSome_iff_exists.1 (hwrittenShort.2 (by decide))
  obtain ⟨hparse, -, i, hi, -, -, hverify⟩ := hread data hdata
  obtain ⟨-, -, j, hj, -, -, hverifyShort⟩ := hreadShort short hshort
  refine ⟨⟨data, i, hdata, hparse, hi, (hverify _ _).2 ⟨rfl, by decide⟩, ?_⟩, ⟨j, hj, fun s => ?_⟩, ?_, ?_,
    ?_⟩
  · exact Bool.eq_false_iff.2 fun h => absurd ((hverify _ _).1 h).2 (by decide)
  · exact Bool.eq_false_iff.2 fun h => absurd ((hverifyShort _ _).1 h).1 (by decide)
  · refine (checks_round_trip [] (List.replicate 65533 0)).1.2 ?_
    rw [List.length_replicate]
    decide
  · refine Bool.eq_false_iff.2 fun h => ?_
    have hfits := ((checks_round_trip [] (List.replicate 65534 0)).1.1 h).2
    rw [List.length_replicate] at hfits
    exact absurd hfits (by decide)
  · refine Bool.eq_false_iff.2 fun h => ?_
    have hfits := ((checks_round_trip (List.replicate 256 ⟨.filled 32 1, .filled 64 3⟩) []).1.1 h).1
    rw [List.length_replicate] at hfits
    exact absurd hfits (by decide)

end RelayGate.Attestation
