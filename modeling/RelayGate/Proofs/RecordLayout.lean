import RelayGate.Hash.Sha256
import RelayGate.Proofs.StoredRecords

/-!
# The layout of stored records

A record has one written form: the tag of its kind, which is taken from the hash of the kind's name, and
then its fields in order, numbers least significant byte first. Reading gives a record back from in front
of whatever follows it, and accepts nothing but written forms; so a switch is a byte `0` or `1`, a layer
one of three bytes, and a count of signers the number of the keys behind it. Since the tags differ, no
data are a record of two kinds (`records_have_one_form`).
-/

namespace RelayGate

namespace Record

/-- Both directions of how a type of records is stored, for the records that fit into their layout: a
record is read back from in front of anything, and data are read as a record only if they begin with it. -/
structure Canonical (α : Type) [Record α] (Fits : α → Prop) : Prop where
  decode_encode : ∀ r, Fits r → ∀ tail, decode α (encode r ++ tail) = .ok r
  encode_decode : ∀ data r, decode α data = .ok r → Fits r ∧ encode r <+: data

theorem canonical_of_lawful {α : Type} [Record α] {Fits : α → Prop}
    (hc : (codec : Codec α).Lawful Fits) : Canonical α Fits where
  decode_encode _ hr tail := decode_encode_append hc hr tail
  encode_decode _ _ h := ⟨fits_of_decode hc h, encode_prefix_of_decode hc h⟩

end Record

namespace RecordKind

/-- Data hold a record of a kind. -/
def Accepts : RecordKind → Bytes → Prop
  | gateway, data => ∃ r, Record.decode Gateway data = .ok r
  | counter, data => ∃ r, Record.decode Counter data = .ok r
  | marker, data => ∃ r, Record.decode Marker data = .ok r
  | registry, data => ∃ r, Record.decode Registry data = .ok r

theorem Accepts.tag {kind : RecordKind} {data : Bytes} (h : kind.Accepts data) :
    data.take tagSize = kind.tag := by
  cases kind with
  | gateway => exact h.elim fun _ hr => (Record.decode_eq_ok.1 hr).1
  | counter => exact h.elim fun _ hr => (Record.decode_eq_ok.1 hr).1
  | marker => exact h.elim fun _ hr => (Record.decode_eq_ok.1 hr).1
  | registry => exact h.elim fun _ hr => (Record.decode_eq_ok.1 hr).1

theorem Accepts.kind_eq {kind kind' : RecordKind} {data : Bytes} (h : kind.Accepts data)
    (h' : kind'.Accepts data) : kind = kind' :=
  tag_injective (h.tag.symm.trans h'.tag)

/-- The tag of a kind begins the hash of its name. -/
theorem tag_eq_hash (kind : RecordKind) :
    kind.tag = (Sha256.hash ("account:" ++ kind.name).toUTF8.toList).bytes.take tagSize := by
  cases kind <;> decide +kernel

end RecordKind

/-! ## Fields -/

open LittleEndian (encode)

theorem Gateway.record_encode (g : Gateway) :
    Record.encode g = RecordKind.gateway.tag ++ g.authority.bytes ++ encode 8 g.chain.toNat ++
      [Codec.flag g.enabled, g.bump] := by
  simp only [List.append_assoc]
  rfl

theorem Counter.record_encode (c : Counter) :
    Record.encode c = RecordKind.counter.tag ++ encode 8 c.chain.toNat ++ encode 16 c.highest.toNat ++
      [c.bump] := by
  simp only [List.append_assoc]
  rfl

theorem Marker.record_encode (m : Marker) :
    Record.encode m = RecordKind.marker.tag ++ encode 16 m.txId.toNat ++ encode 8 m.source.toNat ++
      m.digest.bytes ++ [m.bump] := by
  simp only [List.append_assoc]
  rfl

theorem Registry.record_encode (r : Registry) :
    Record.encode r = RecordKind.registry.tag ++ [r.layer.code] ++ r.authority.bytes ++
      (encode 4 r.signers.length ++ r.signers.flatMap FixedBytes.bytes) ++ [r.threshold] ++
        encode 8 r.chain.toNat ++ [Codec.flag r.enabled, r.bump] := by
  simp only [List.append_assoc]
  rfl

/-! ## One form -/

namespace Record

/-- Each of the four kinds of records is stored in one form, which is read back whatever follows it, and
no data are of two kinds. The form is the tag, which begins the hash of the name of the kind, and then the
fields in order, with the count of the signers in four bytes in front of them. -/
theorem records_have_one_form :
    (Canonical Gateway (fun _ => True) ∧ Canonical Counter (fun _ => True) ∧
        Canonical Marker (fun _ => True) ∧
        Canonical Registry fun r => r.signers.length < UInt32.size) ∧
      (∀ kind kind' data, RecordKind.Accepts kind data → RecordKind.Accepts kind' data →
        kind = kind') ∧
      (∀ kind : RecordKind, kind.tag =
        (Sha256.hash ("account:" ++ kind.name).toUTF8.toList).bytes.take RecordKind.tagSize) ∧
      (∀ g : Gateway, encode g = RecordKind.gateway.tag ++ g.authority.bytes ++
        LittleEndian.encode 8 g.chain.toNat ++ [Codec.flag g.enabled, g.bump]) ∧
      (∀ c : Counter, encode c = RecordKind.counter.tag ++ LittleEndian.encode 8 c.chain.toNat ++
        LittleEndian.encode 16 c.highest.toNat ++ [c.bump]) ∧
      (∀ m : Marker, encode m = RecordKind.marker.tag ++ LittleEndian.encode 16 m.txId.toNat ++
        LittleEndian.encode 8 m.source.toNat ++ m.digest.bytes ++ [m.bump]) ∧
      ∀ r : Registry, encode r = RecordKind.registry.tag ++ [r.layer.code] ++ r.authority.bytes ++
        (LittleEndian.encode 4 r.signers.length ++ r.signers.flatMap FixedBytes.bytes) ++
          [r.threshold] ++ LittleEndian.encode 8 r.chain.toNat ++ [Codec.flag r.enabled, r.bump] :=
  ⟨⟨canonical_of_lawful Gateway.lawful_codec, canonical_of_lawful Counter.lawful_codec,
      canonical_of_lawful Marker.lawful_codec, canonical_of_lawful Registry.lawful_codec⟩,
    fun _ _ _ => RecordKind.Accepts.kind_eq, RecordKind.tag_eq_hash, Gateway.record_encode,
    Counter.record_encode, Marker.record_encode, Registry.record_encode⟩

/-- A registry that is switched off, of two signers. -/
def exampleOff : Registry :=
  { layer := .project, authority := .filled 32 42, signers := [.filled 32 1, .filled 32 2],
    threshold := 0, chain := 43113, enabled := false, bump := 255 }

/-- It is read back from in front of two more bytes, which then are no gateway and no other registry. -/
theorem records_have_one_form_off :
    exampleOff.signers.length < UInt32.size ∧
      decode Registry (encode exampleOff ++ [7, 7]) = .ok exampleOff ∧
      encode exampleOff <+: encode exampleOff ++ [7, 7] ∧
      (∀ r, decode Registry (encode exampleOff ++ [7, 7]) = .ok r → r = exampleOff) ∧
      ¬RecordKind.gateway.Accepts (encode exampleOff ++ [7, 7]) := by
  obtain ⟨⟨-, -, -, hregistry⟩, hkinds, -⟩ := records_have_one_form
  have hfits : exampleOff.signers.length < UInt32.size := by decide
  have hread := hregistry.decode_encode exampleOff hfits [7, 7]
  refine ⟨hfits, hread, (hregistry.encode_decode _ _ hread).2, ?_, ?_⟩
  · intro r hr
    exact Except.ok.inj (hr.symm.trans hread)
  · intro hgateway
    cases hkinds .registry .gateway _ ⟨_, hread⟩ hgateway

end Record

end RelayGate
