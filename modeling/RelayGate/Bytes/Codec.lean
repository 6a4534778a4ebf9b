import RelayGate.Bytes.LittleEndian

/-!
# Codecs

A codec is a writer together with a reader that takes one value off the front of its input and
hands back the rest. Arguments of calls, stored records and events are all described by codecs
built from the combinators below.

A codec is `Lawful` for the values that fit its layout when reading undoes writing in front of any
further bytes, and when whatever is read is exactly what writing would have put there. The second
half says that each value has one written form. Each combinator preserves lawfulness.
-/

namespace RelayGate

/-- A writer and a reader of one layout. -/
structure Codec (α : Type) where
  encode : α → Bytes
  /-- The value at the front of the input and the input behind it. -/
  decode : Bytes → Option (α × Bytes)

namespace Codec

variable {α β : Type}

/-- The two directions of a layout, for the values that fit it. -/
structure Lawful (c : Codec α) (Fits : α → Prop) : Prop where
  /-- Reading undoes writing and leaves the bytes behind it alone. -/
  decode_encode : ∀ a, Fits a → ∀ rest, c.decode (c.encode a ++ rest) = some (a, rest)
  /-- A value that was read fits, and was written as it would be written again. -/
  encode_decode : ∀ data a rest, c.decode data = some (a, rest) → Fits a ∧ data = c.encode a ++ rest

def Always : α → Prop := fun _ => True

section

variable {c : Codec α} {Fits Fits' : α → Prop} {a b : α}

theorem Lawful.congr (hc : c.Lawful Fits) (h : ∀ a, Fits a ↔ Fits' a) : c.Lawful Fits' where
  decode_encode a ha := hc.decode_encode a ((h a).2 ha)
  encode_decode data a rest hread := by
    obtain ⟨hfits, hdata⟩ := hc.encode_decode data a rest hread
    exact ⟨(h a).1 hfits, hdata⟩

/-- What a lawful codec writes ends by itself: the value and what stands behind it can be told. -/
theorem Lawful.encode_append_inj (hc : c.Lawful Fits) (ha : Fits a) (hb : Fits b) {x y : Bytes}
    (h : c.encode a ++ x = c.encode b ++ y) : a = b ∧ x = y := by
  have hread := hc.decode_encode a ha x
  rw [h, hc.decode_encode b hb y, Option.some.injEq, Prod.mk.injEq] at hread
  exact ⟨hread.1.symm, hread.2.symm⟩

theorem Lawful.encode_inj (hc : c.Lawful Fits) (ha : Fits a) (hb : Fits b)
    (h : c.encode a = c.encode b) : a = b :=
  (hc.encode_append_inj ha hb (congrArg (· ++ []) h)).1

end

/-! ## Fixed-width pieces -/

/-- Exactly `n` bytes. -/
def fixed (n : Nat) : Codec (FixedBytes n) where
  encode a := a.bytes
  decode data := (FixedBytes.ofBytes? (data.take n)).map (·, data.drop n)

theorem lawful_fixed (n : Nat) : (fixed n).Lawful Always where
  decode_encode a _ rest := by
    have htake : (a.bytes ++ rest).take n = a.bytes := by
      rw [List.take_append_of_le_length (by simp [a.length_bytes]),
        List.take_of_length_le (by simp [a.length_bytes])]
    have hdrop : (a.bytes ++ rest).drop n = rest := by
      rw [List.drop_append_of_le_length (by simp [a.length_bytes]),
        List.drop_of_length_le (by simp [a.length_bytes]), List.nil_append]
    simp [fixed, htake, hdrop]
  encode_decode data a rest h := by
    obtain ⟨b, hb, heq⟩ := Option.map_eq_some_iff.1 h
    injection heq with h1 h2
    subst h1 h2
    refine ⟨trivial, ?_⟩
    simp only [fixed, FixedBytes.bytes_of_ofBytes? hb, List.take_append_drop]

/-- The same layout read into another type by an invertible map. -/
def iso (c : Codec α) (forth : α → β) (back : β → α) : Codec β where
  encode b := c.encode (back b)
  decode data := (c.decode data).map fun (a, rest) => (forth a, rest)

theorem Lawful.iso {c : Codec α} {Fits : α → Prop} (hc : c.Lawful Fits) {forth : α → β} {back : β → α}
    (forth_back : ∀ b, forth (back b) = b) (back_forth : ∀ a, back (forth a) = a) :
    (c.iso forth back).Lawful fun b => Fits (back b) where
  decode_encode b hb rest := by
    simp [Codec.iso, hc.decode_encode (back b) hb rest, forth_back]
  encode_decode data b rest h := by
    obtain ⟨⟨a, r⟩, ha, heq⟩ := Option.map_eq_some_iff.1 h
    injection heq with h1 h2
    subst h1 h2
    obtain ⟨hfits, hdata⟩ := hc.encode_decode data a r ha
    simp only [Codec.iso, back_forth]
    exact ⟨hfits, hdata⟩

/-- The same layout, of which only the values with a counterpart are accepted. -/
def partialIso (c : Codec α) (forth : α → Option β) (back : β → α) : Codec β where
  encode b := c.encode (back b)
  decode data := (c.decode data).bind fun (a, rest) => (forth a).map (·, rest)

theorem Lawful.partialIso {c : Codec α} {Fits : α → Prop} (hc : c.Lawful Fits)
    {forth : α → Option β} {back : β → α} (forth_back : ∀ b, forth (back b) = some b)
    (back_forth : ∀ a b, forth a = some b → back b = a) :
    (c.partialIso forth back).Lawful fun b => Fits (back b) where
  decode_encode b hb rest := by
    simp [Codec.partialIso, hc.decode_encode (back b) hb rest, forth_back]
  encode_decode data b rest h := by
    obtain ⟨⟨a, r⟩, ha, hrest⟩ := Option.bind_eq_some_iff.1 h
    obtain ⟨b', hb', heq⟩ := Option.map_eq_some_iff.1 hrest
    injection heq with h1 h2
    subst h1 h2
    obtain ⟨hfits, hdata⟩ := hc.encode_decode data a r ha
    simp only [Codec.partialIso, back_forth a b' hb']
    exact ⟨hfits, hdata⟩

/-- A number below `256 ^ width`, least significant byte first. -/
def number (width : Nat) : Codec Nat :=
  (fixed width).iso (fun a => LittleEndian.decode a.bytes)
    fun n => ⟨LittleEndian.encode width n, LittleEndian.length_encode width n⟩

theorem lawful_number (width : Nat) : (number width).Lawful (· < Nat.pow 256 width) where
  decode_encode n hn rest := by
    have h := (lawful_fixed width).decode_encode
      ⟨LittleEndian.encode width n, LittleEndian.length_encode width n⟩ trivial rest
    simp [number, Codec.iso, h, LittleEndian.decode_encode_of_lt hn]
  encode_decode data n rest h := by
    obtain ⟨⟨a, r⟩, ha, heq⟩ := Option.map_eq_some_iff.1 h
    injection heq with h1 h2
    subst h1 h2
    have hlt := LittleEndian.decode_lt a.bytes
    have hback := LittleEndian.encode_decode a.bytes
    rw [a.length_bytes] at hlt hback
    refine ⟨hlt, ?_⟩
    simpa [number, Codec.iso, hback] using ((lawful_fixed width).encode_decode data a r ha).2

def u8 : Codec UInt8 where
  encode a := [a]
  decode
    | [] => none
    | a :: rest => some (a, rest)

theorem lawful_u8 : u8.Lawful Always where
  decode_encode _ _ _ := rfl
  encode_decode data a rest h := by
    cases data with
    | nil => exact absurd h (by simp [u8])
    | cons b r =>
      simp only [u8, Option.some.injEq, Prod.mk.injEq] at h
      obtain ⟨rfl, rfl⟩ := h
      exact ⟨trivial, rfl⟩

/-- The byte of a yes or no. -/
def flag (b : Bool) : UInt8 := if b then 1 else 0

/-- The yes or no of a byte, which is `0` or `1`. -/
def ofFlag? (a : UInt8) : Option Bool :=
  if a = 0 then some false else if a = 1 then some true else none

theorem flag_of_ofFlag? {a : UInt8} {b : Bool} (h : ofFlag? a = some b) : flag b = a := by
  unfold ofFlag? at h
  split at h
  · next h0 => injection h with h; subst h; exact h0.symm
  · split at h
    · next h1 => injection h with h; subst h; exact h1.symm
    · exact absurd h (by simp)

/-- A yes or no as one byte, `0` or `1`. -/
def bool : Codec Bool := u8.partialIso ofFlag? flag

theorem lawful_bool : bool.Lawful Always :=
  lawful_u8.partialIso (fun b => by cases b <;> rfl) fun _ _ => flag_of_ofFlag?

def u16 : Codec UInt16 :=
  (number 2).iso (UInt16.ofNat ·) (·.toNat)

def u64 : Codec UInt64 :=
  (number 8).iso (UInt64.ofNat ·) (·.toNat)

def u128 : Codec (BitVec 128) :=
  (number 16).iso (BitVec.ofNat 128 ·) (·.toNat)

private theorem lawful_word {width : Nat} (ofNat : Nat → β) (toNat : β → Nat)
    (ofNat_toNat : ∀ b, ofNat (toNat b) = b) (toNat_lt : ∀ b, toNat b < Nat.pow 256 width)
    (toNat_ofNat : ∀ n, n < Nat.pow 256 width → toNat (ofNat n) = n) :
    ((number width).iso ofNat toNat).Lawful Always where
  decode_encode b _ rest := by
    simp [Codec.iso, (lawful_number width).decode_encode (toNat b) (toNat_lt b) rest, ofNat_toNat]
  encode_decode data b rest h := by
    obtain ⟨⟨n, r⟩, hn, heq⟩ := Option.map_eq_some_iff.1 h
    injection heq with h1 h2
    subst h1 h2
    obtain ⟨hfits, hdata⟩ := (lawful_number width).encode_decode data n r hn
    refine ⟨trivial, ?_⟩
    simp only [Codec.iso, toNat_ofNat n hfits]
    exact hdata

theorem lawful_u64 : u64.Lawful Always :=
  lawful_word _ _ (fun b => by simp) (fun b => b.toNat_lt)
    (fun n hn => by rw [UInt64.toNat_ofNat']; exact Nat.mod_eq_of_lt hn)

theorem lawful_u128 : u128.Lawful Always :=
  lawful_word _ _ (fun b => by simp) (fun b => b.isLt)
    (fun n hn => by rw [BitVec.toNat_ofNat]; exact Nat.mod_eq_of_lt hn)

/-! ## Sequences -/

/-- One value and then another. -/
def pair (c : Codec α) (d : Codec β) : Codec (α × β) where
  encode p := c.encode p.1 ++ d.encode p.2
  decode data :=
    (c.decode data).bind fun (a, rest) => (d.decode rest).map fun (b, rest) => ((a, b), rest)

theorem Lawful.pair {c : Codec α} {d : Codec β} {FitsA : α → Prop} {FitsB : β → Prop}
    (hc : c.Lawful FitsA) (hd : d.Lawful FitsB) :
    (c.pair d).Lawful fun p => FitsA p.1 ∧ FitsB p.2 where
  decode_encode p hp rest := by
    simp [Codec.pair, List.append_assoc, hc.decode_encode p.1 hp.1, hd.decode_encode p.2 hp.2]
  encode_decode data p rest h := by
    obtain ⟨⟨a, r⟩, ha, hr⟩ := Option.bind_eq_some_iff.1 h
    obtain ⟨⟨b, r'⟩, hb, heq⟩ := Option.map_eq_some_iff.1 hr
    injection heq with h1 h2
    subst h1 h2
    obtain ⟨hfa, hda⟩ := hc.encode_decode data a r ha
    obtain ⟨hfb, hdb⟩ := hd.encode_decode r b r' hb
    exact ⟨⟨hfa, hfb⟩, by simp only [Codec.pair, List.append_assoc, hda, hdb]⟩

/-- The next `count` values. -/
def decodeMany (c : Codec α) : Nat → Bytes → Option (List α × Bytes)
  | 0, data => some ([], data)
  | count + 1, data =>
    (c.decode data).bind fun (a, rest) =>
      (decodeMany c count rest).map fun (as, rest) => (a :: as, rest)

theorem decodeMany_encode {c : Codec α} {Fits : α → Prop} (hc : c.Lawful Fits) (as : List α)
    (has : ∀ a ∈ as, Fits a) (rest : Bytes) :
    decodeMany c as.length (as.flatMap c.encode ++ rest) = some (as, rest) := by
  induction as with
  | nil => rfl
  | cons a as ih =>
    have ha := hc.decode_encode a (has a (by simp))
    have ih := ih fun b hb => has b (by simp [hb])
    simp [decodeMany, List.append_assoc, ha, ih]

theorem encode_decodeMany {c : Codec α} {Fits : α → Prop} (hc : c.Lawful Fits) {count : Nat}
    {data rest : Bytes} {as : List α} (h : decodeMany c count data = some (as, rest)) :
    as.length = count ∧ (∀ a ∈ as, Fits a) ∧ data = as.flatMap c.encode ++ rest := by
  induction count generalizing data as with
  | zero =>
    simp only [decodeMany, Option.some.injEq, Prod.mk.injEq] at h
    obtain ⟨rfl, rfl⟩ := h
    simp
  | succ count ih =>
    obtain ⟨⟨a, r⟩, ha, hr⟩ := Option.bind_eq_some_iff.1 h
    obtain ⟨⟨bs, r'⟩, hb, heq⟩ := Option.map_eq_some_iff.1 hr
    injection heq with h1 h2
    subst h1 h2
    obtain ⟨hfa, hda⟩ := hc.encode_decode data a r ha
    obtain ⟨hlen, hfb, hdb⟩ := ih hb
    refine ⟨by simp [hlen], ?_, by simp [hda, hdb, List.append_assoc]⟩
    intro b hb
    rcases List.mem_cons.1 hb with rfl | hb
    · exact hfa
    · exact hfb b hb

/-- A count in four bytes, and then so many values. -/
def list (c : Codec α) : Codec (List α) where
  encode as := (number 4).encode as.length ++ as.flatMap c.encode
  decode data := ((number 4).decode data).bind fun (count, rest) => decodeMany c count rest

theorem Lawful.list {c : Codec α} {Fits : α → Prop} (hc : c.Lawful Fits) :
    (c.list).Lawful fun as => as.length < UInt32.size ∧ ∀ a ∈ as, Fits a where
  decode_encode as has rest := by
    have hnum := (lawful_number 4).decode_encode as.length (by simpa using has.1)
    simp [Codec.list, List.append_assoc, hnum, decodeMany_encode hc as has.2]
  encode_decode data as rest h := by
    obtain ⟨⟨count, r⟩, hcount, hr⟩ := Option.bind_eq_some_iff.1 h
    obtain ⟨hlt, hdata⟩ := (lawful_number 4).encode_decode data count r hcount
    obtain ⟨hlen, hfits, hmany⟩ := encode_decodeMany hc hr
    subst hlen
    refine ⟨⟨by simpa using hlt, hfits⟩, ?_⟩
    simp only [Codec.list, List.append_assoc, hdata, ← hmany]

/-- A byte string behind its length in four bytes. -/
def bytes : Codec Bytes where
  encode data := (number 4).encode data.length ++ data
  decode data :=
    ((number 4).decode data).bind fun (count, rest) =>
      (Bytes.slice? rest 0 count).map (·, rest.drop count)

theorem lawful_bytes : bytes.Lawful fun data => data.length < UInt32.size where
  decode_encode data hdata rest := by
    have hnum := (lawful_number 4).decode_encode data.length (by simpa using hdata)
    simp [Codec.bytes, List.append_assoc, hnum, Bytes.slice?]
  encode_decode data a rest h := by
    obtain ⟨⟨count, r⟩, hcount, hr⟩ := Option.bind_eq_some_iff.1 h
    obtain ⟨piece, hpiece, heq⟩ := Option.map_eq_some_iff.1 hr
    injection heq with h1 h2
    subst h1 h2
    obtain ⟨hlt, hdata⟩ := (lawful_number 4).encode_decode data count r hcount
    have hlen := Bytes.length_of_slice? hpiece
    have hsplit : piece ++ r.drop count = r := by
      unfold Bytes.slice? at hpiece
      split at hpiece
      · injection hpiece with hpiece
        rw [← hpiece, List.drop_zero, List.take_append_drop]
      · exact absurd hpiece (by simp)
    refine ⟨by rw [hlen]; simpa using hlt, ?_⟩
    simp only [Codec.bytes, List.append_assoc, hlen, hsplit, hdata]

end Codec

end RelayGate
