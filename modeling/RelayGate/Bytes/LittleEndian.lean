import RelayGate.Bytes

/-!
# Numbers as bytes

Every number that is stored or sent is written least significant byte first, in a fixed width.
Main statements: reading undoes writing below `256 ^ width`, and writing undoes reading.
-/

namespace RelayGate.LittleEndian

/-- The `width` low bytes of `n`, least significant first. -/
def encode : Nat → Nat → Bytes
  | 0, _ => []
  | width + 1, n => UInt8.ofNat n :: encode width (n / 256)

/-- The number whose bytes, least significant first, are `data`. -/
def decode : Bytes → Nat
  | [] => 0
  | byte :: rest => byte.toNat + 256 * decode rest

@[simp] theorem length_encode (width n : Nat) : (encode width n).length = width := by
  induction width generalizing n with
  | zero => rfl
  | succ width ih => simp [encode, ih]

private theorem pow_width_succ (width : Nat) : Nat.pow 256 (width + 1) = 256 * Nat.pow 256 width :=
  Nat.pow_succ'

theorem decode_encode (width n : Nat) : decode (encode width n) = n % Nat.pow 256 width := by
  induction width generalizing n with
  | zero => simp [encode, decode, Nat.mod_one]
  | succ width ih =>
    have hbyte : (UInt8.ofNat n).toNat = n % 256 := by simp
    rw [encode, decode, ih, hbyte, pow_width_succ, Nat.mod_mul]

theorem decode_encode_of_lt {width n : Nat} (h : n < Nat.pow 256 width) :
    decode (encode width n) = n := by
  rw [decode_encode, Nat.mod_eq_of_lt h]

theorem decode_lt (data : Bytes) : decode data < Nat.pow 256 data.length := by
  induction data with
  | nil => simp [decode]
  | cons byte rest ih =>
    have hbyte : byte.toNat < 256 := byte.toNat_lt
    simp only [decode, List.length_cons, pow_width_succ]
    omega

theorem encode_decode (data : Bytes) : encode data.length (decode data) = data := by
  induction data with
  | nil => rfl
  | cons byte rest ih =>
    have hbyte : byte.toNat < 256 := byte.toNat_lt
    have hlow : UInt8.ofNat (byte.toNat + 256 * decode rest) = byte := by
      apply UInt8.toNat_inj.1
      simp only [UInt8.toNat_ofNat']
      omega
    have hhigh : (byte.toNat + 256 * decode rest) / 256 = decode rest := by omega
    rw [List.length_cons, decode, encode, hlow, hhigh, ih]

end RelayGate.LittleEndian
