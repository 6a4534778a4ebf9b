/-!
# Byte strings

Everything the gate stores, hashes or sends is a list of bytes. A list, and not a packed array,
because each rule about layouts is then a rule about `++`, `take` and `drop`.

`FixedBytes n` is a byte string whose length is part of its type: keys, digests and signatures are
of this form, so no operation on them has to check a length again.
-/

namespace RelayGate

abbrev Bytes := List UInt8

namespace Bytes

/-- The `len` bytes from position `start`, when all of them lie inside `data`. An empty slice still
needs its position to be inside or at the end. -/
def slice? (data : Bytes) (start len : Nat) : Option Bytes :=
  if start + len ≤ data.length then some ((data.drop start).take len) else none

/-- `data` cut or padded with zero bytes to exactly `len` bytes. -/
def resize (data : Bytes) (len : Nat) : Bytes :=
  data.take len ++ List.replicate (len - data.length) 0

/-- `source` written over the front of `target`. What does not fit is dropped, and the bytes of
`target` behind it stay. -/
def overwrite (target source : Bytes) : Bytes :=
  source.take target.length ++ target.drop source.length

theorem length_of_slice? {data piece : Bytes} {start len : Nat}
    (h : slice? data start len = some piece) : piece.length = len := by
  unfold slice? at h
  split at h
  · injection h with h
    subst h
    simp only [List.length_take, List.length_drop]
    omega
  · exact absurd h (by simp)

theorem length_overwrite (target source : Bytes) :
    (overwrite target source).length = target.length := by
  simp only [overwrite, List.length_append, List.length_take, List.length_drop]
  omega

/-- A byte string as a number, first byte most significant. For strings of one length, comparing
these numbers is comparing the strings from the front. -/
def bigEndian (data : Bytes) : Nat := data.foldl (fun acc byte => acc * 256 + byte.toNat) 0

private theorem foldl_bigEndian_injective {a b : Bytes} (hlen : a.length = b.length) {m n : Nat}
    (h : a.foldl (fun acc byte => acc * 256 + byte.toNat) m =
      b.foldl (fun acc byte => acc * 256 + byte.toNat) n) : m = n ∧ a = b := by
  induction a generalizing b m n with
  | nil =>
    cases b with
    | nil => exact ⟨h, rfl⟩
    | cons => simp at hlen
  | cons x xs ih =>
    cases b with
    | nil => simp at hlen
    | cons y ys =>
      simp only [List.length_cons, Nat.add_right_cancel_iff] at hlen
      obtain ⟨hmn, rfl⟩ := ih hlen h
      have hx : x.toNat < 256 := x.toNat_lt
      have hy : y.toNat < 256 := y.toNat_lt
      dsimp only at hmn
      have hxy : x = y := UInt8.toNat_inj.1 (by omega)
      subst hxy
      exact ⟨by omega, rfl⟩

theorem bigEndian_injective {a b : Bytes} (hlen : a.length = b.length)
    (h : a.bigEndian = b.bigEndian) : a = b :=
  (foldl_bigEndian_injective hlen h).2

end Bytes

/-- A byte string of exactly `n` bytes. -/
structure FixedBytes (n : Nat) where
  bytes : Bytes
  length_bytes : bytes.length = n
deriving DecidableEq

namespace FixedBytes

variable {n : Nat}

theorem ext {a b : FixedBytes n} (h : a.bytes = b.bytes) : a = b := by
  cases a
  cases b
  simp only at h
  subst h
  rfl

/-- Reads a byte string of the right length. -/
def ofBytes? (data : Bytes) : Option (FixedBytes n) :=
  if h : data.length = n then some ⟨data, h⟩ else none

/-- The slice of `n` bytes from position `start`, when it lies inside `data`. -/
def slice? (n : Nat) (data : Bytes) (start : Nat) : Option (FixedBytes n) :=
  match h : Bytes.slice? data start n with
  | some piece => some ⟨piece, Bytes.length_of_slice? h⟩
  | none => none

/-- One byte repeated. -/
def filled (n : Nat) (byte : UInt8) : FixedBytes n :=
  ⟨List.replicate n byte, List.length_replicate⟩

def zero (n : Nat) : FixedBytes n := filled n 0

def isZero (a : FixedBytes n) : Bool := a.bytes.all (· == 0)

@[simp] theorem ofBytes?_bytes (a : FixedBytes n) : ofBytes? a.bytes = some a := by
  simp [ofBytes?, a.length_bytes]

theorem bytes_of_ofBytes? {data : Bytes} {a : FixedBytes n} (h : ofBytes? data = some a) :
    a.bytes = data := by
  unfold ofBytes? at h
  split at h
  · injection h with h
    subst h
    rfl
  · exact absurd h (by simp)

end FixedBytes

end RelayGate
