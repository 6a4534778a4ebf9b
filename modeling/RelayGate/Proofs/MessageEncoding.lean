import RelayGate.Proofs.Phases

/-!
# The canonical encoding of messages

The encoding leaves no freedom: it can be read back, whatever stands behind it. So two messages with
the same encoding are the same, no encoding is the beginning of another one, and messages that share a
digest without being the same show two byte strings that share a hash (`encoding_ends_by_itself`).
-/

namespace RelayGate

namespace Message

/-- The length of each byte field of a message can be written in four bytes. -/
structure Encodable (m : Message) : Prop where
  sender : m.sender.length < UInt32.size
  recipient : m.recipient.length < UInt32.size
  onChainData : m.onChainData.length < UInt32.size
  offChainData : m.offChainData.length < UInt32.size

theorem lawful_codec : codec.Lawful Encodable := by
  have hfields := Codec.lawful_u128.pair <| Codec.lawful_u64.pair <| Codec.lawful_u64.pair <|
    Codec.lawful_bytes.pair <| Codec.lawful_bytes.pair <| Codec.lawful_bytes.pair Codec.lawful_bytes
  have h : codec.Lawful _ := hfields.iso (fun _ => rfl) fun _ => rfl
  refine h.congr fun m => ⟨?_, ?_⟩
  · rintro ⟨-, -, -, h1, h2, h3, h4⟩
    exact ⟨h1, h2, h3, h4⟩
  · intro hm
    exact ⟨trivial, trivial, trivial, hm.sender, hm.recipient, hm.onChainData, hm.offChainData⟩

/-- The limits on the byte fields keep their lengths far below what four bytes hold. -/
theorem WithinLimits.encodable {m : Message} (h : m.WithinLimits) : m.Encodable := by
  obtain ⟨h1, h2, h3, h4⟩ := h
  simp only [maxSender, maxRecipient, maxOnChainData, maxOffChainData] at h1 h2 h3 h4
  have hsize : 4096 < UInt32.size := by decide
  exact ⟨by omega, by omega, by omega, by omega⟩

theorem encode_inj {m m' : Message} (hm : m.Encodable) (hm' : m'.Encodable)
    (h : m.encode = m'.encode) : m = m' :=
  lawful_codec.encode_inj hm hm' h

/-- Two messages within their limits that share a hash are the same, or their encodings are two
different byte strings with one Keccak hash. -/
theorem eq_or_collision_of_hash_eq {m m' : Message} (hm : m.WithinLimits) (hm' : m'.WithinLimits)
    (h : m.hash = m'.hash) :
    m = m' ∨ m.encode ≠ m'.encode ∧ Keccak.hash m.encode = Keccak.hash m'.encode := by
  by_cases hencode : m.encode = m'.encode
  · exact Or.inl (encode_inj hm.encodable hm'.encodable hencode)
  · exact Or.inr ⟨hencode, h⟩

/-- In whatever stands behind it, the encoding of a message is found again: the message can be told, and
where it ends. So no encoding goes on as another one. A digest is shared only by one message, or by two
whose encodings are different byte strings with one Keccak hash. -/
theorem encoding_ends_by_itself (m m' : Message) :
    (m.Encodable → ∀ rest, codec.decode (m.encode ++ rest) = some (m, rest)) ∧
      (m.Encodable → m'.Encodable → ∀ x y, m.encode ++ x = m'.encode ++ y → m = m' ∧ x = y) ∧
      (m.Encodable → m'.Encodable → m.encode <+: m'.encode → m = m') ∧
      ∀ d, m.digest.outcome = .ok d → m'.digest.outcome = .ok d →
        m = m' ∨ m.encode ≠ m'.encode ∧ Keccak.hash m.encode = Keccak.hash m'.encode := by
  refine ⟨lawful_codec.decode_encode m, ?_, ?_, ?_⟩
  · intro hm hm' x y h
    exact lawful_codec.encode_append_inj hm hm' h
  · rintro hm hm' ⟨rest, h⟩
    rw [← List.append_nil m'.encode] at h
    exact (lawful_codec.encode_append_inj hm hm' h).1
  · intro d hd hd'
    obtain ⟨hm, rfl⟩ := outcome_digest_eq_ok.1 hd
    obtain ⟨hm', hhash⟩ := outcome_digest_eq_ok.1 hd'
    exact eq_or_collision_of_hash_eq hm hm' hhash.symm

/-- Five bytes, of which the first `cut` are the sender and the others the recipient. -/
def exampleCut (cut : Nat) : Message where
  txId := 1
  source := 43113
  destination := 2
  sender := [0x61, 0x76, 0x61, 0x78, 0x07].take cut
  recipient := [0x61, 0x76, 0x61, 0x78, 0x07].drop cut
  onChainData := []
  offChainData := []

/-- The encoding tells where the sender ends, unless the cut is behind the last byte anyway. -/
theorem encoding_ends_by_itself_at_cuts :
    ((exampleCut 4).Encodable ∧ (exampleCut 3).Encodable ∧
        codec.decode ((exampleCut 4).encode ++ [1, 2]) = some (exampleCut 4, [1, 2]) ∧
        (∀ x y, (exampleCut 4).encode ++ x ≠ (exampleCut 3).encode ++ y) ∧
        ¬(exampleCut 4).encode <+: (exampleCut 3).encode ∧
        (exampleCut 3).digest.outcome ≠ .ok (exampleCut 4).hash) ∧
      (exampleCut 5).encode ++ [1, 2] = (exampleCut 6).encode ++ [1, 2] ∧
        (exampleCut 6).digest.outcome = .ok (exampleCut 5).hash ∧ exampleCut 5 = exampleCut 6 := by
  have hlimits : ∀ cut, (exampleCut cut).WithinLimits := by
    intro cut
    have hsender : (exampleCut cut).sender.length ≤ 5 := List.length_take_le' _ _
    have hrecipient : (exampleCut cut).recipient.length ≤ 5 := by simp [exampleCut]
    exact ⟨Nat.le_trans hsender (by decide), Nat.le_trans hrecipient (by decide), Nat.zero_le _,
      Nat.zero_le _⟩
  have hencodable : ∀ cut, (exampleCut cut).Encodable := fun cut => (hlimits cut).encodable
  have hdigest : ∀ cut, (exampleCut cut).digest.outcome = .ok (exampleCut cut).hash :=
    fun cut => outcome_digest_eq_ok.2 ⟨hlimits cut, rfl⟩
  have hother : exampleCut 4 ≠ exampleCut 3 := by decide
  have hsame : (exampleCut 5).encode ++ [1, 2] = (exampleCut 6).encode ++ [1, 2] := by decide
  have hshared : (exampleCut 6).digest.outcome = .ok (exampleCut 5).hash := hdigest 5
  constructor
  · obtain ⟨hdecode, hends, hbegins, hcollision⟩ := encoding_ends_by_itself (exampleCut 4) (exampleCut 3)
    refine ⟨hencodable 4, hencodable 3, hdecode (hencodable 4) _, ?_, ?_, ?_⟩
    · intro x y h
      exact hother (hends (hencodable 4) (hencodable 3) x y h).1
    · intro h
      exact hother (hbegins (hencodable 4) (hencodable 3) h)
    · intro h
      rcases hcollision _ (hdigest 4) h with heq | ⟨-, hhash⟩
      · exact hother heq
      · exact absurd hhash (by decide +kernel)
  · obtain ⟨-, hends, -, -⟩ := encoding_ends_by_itself (exampleCut 5) (exampleCut 6)
    exact ⟨hsame, hshared, (hends (hencodable 5) (hencodable 6) _ _ hsame).1⟩

end Message

end RelayGate
