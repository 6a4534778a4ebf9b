import RelayGate.Bytes.LittleEndian

/-!
# Keccak-256

The sponge over the 1600-bit Keccak permutation with a rate of 136 bytes, padded with a single `1`
bit and no domain suffix. Messages are identified by this hash of their canonical encoding.

The state is written out lane by lane instead of indexing an array, so that a concrete hash is
evaluated by plain reduction.
-/

namespace RelayGate.Keccak

/-- Five lanes that share the coordinate `y`, in the order of `x`. -/
structure Row where
  a : UInt64
  b : UInt64
  c : UInt64
  d : UInt64
  e : UInt64

namespace Row

def xor (p q : Row) : Row :=
  ⟨p.a ^^^ q.a, p.b ^^^ q.b, p.c ^^^ q.c, p.d ^^^ q.d, p.e ^^^ q.e⟩

/-- The only nonlinear step: each lane is flipped where the next is clear and the one after is set. -/
def chi (r : Row) : Row :=
  ⟨r.a ^^^ (~~~r.b &&& r.c), r.b ^^^ (~~~r.c &&& r.d), r.c ^^^ (~~~r.d &&& r.e),
    r.d ^^^ (~~~r.e &&& r.a), r.e ^^^ (~~~r.a &&& r.b)⟩

end Row

/-- The state: five rows, in the order of `y`. -/
structure State where
  v : Row
  w : Row
  x : Row
  y : Row
  z : Row

/-- Rotation towards the high bits, by less than 64 places and not by none. -/
def rotate (lane : UInt64) (places : UInt64) : UInt64 :=
  (lane <<< places) ||| (lane >>> (64 - places))

namespace State

def zero : State :=
  let row : Row := ⟨0, 0, 0, 0, 0⟩
  ⟨row, row, row, row, row⟩

/-- Adds to every lane the parities of the two neighbouring columns. -/
def theta (s : State) : State :=
  let p := (((s.v.xor s.w).xor s.x).xor s.y).xor s.z
  let d : Row :=
    ⟨p.e ^^^ rotate p.b 1, p.a ^^^ rotate p.c 1, p.b ^^^ rotate p.d 1, p.c ^^^ rotate p.e 1,
      p.d ^^^ rotate p.a 1⟩
  ⟨s.v.xor d, s.w.xor d, s.x.xor d, s.y.xor d, s.z.xor d⟩

/-- Rotates every lane by its own offset and moves it to its new coordinates. -/
def rhoPi (s : State) : State :=
  ⟨⟨s.v.a, rotate s.w.b 44, rotate s.x.c 43, rotate s.y.d 21, rotate s.z.e 14⟩,
    ⟨rotate s.v.d 28, rotate s.w.e 20, rotate s.x.a 3, rotate s.y.b 45, rotate s.z.c 61⟩,
    ⟨rotate s.v.b 1, rotate s.w.c 6, rotate s.x.d 25, rotate s.y.e 8, rotate s.z.a 18⟩,
    ⟨rotate s.v.e 27, rotate s.w.a 36, rotate s.x.b 10, rotate s.y.c 15, rotate s.z.d 56⟩,
    ⟨rotate s.v.c 62, rotate s.w.d 55, rotate s.x.e 39, rotate s.y.a 41, rotate s.z.b 2⟩⟩

/-- One round: diffusion, permutation of the lanes, the nonlinear step, and the round's constant. -/
def round (s : State) (constant : UInt64) : State :=
  let s := s.theta.rhoPi
  let v := s.v.chi
  ⟨{ v with a := v.a ^^^ constant }, s.w.chi, s.x.chi, s.y.chi, s.z.chi⟩

end State

def roundConstants : List UInt64 :=
  [0x0000000000000001, 0x0000000000008082, 0x800000000000808a, 0x8000000080008000,
    0x000000000000808b, 0x0000000080000001, 0x8000000080008081, 0x8000000000008009,
    0x000000000000008a, 0x0000000000000088, 0x0000000080008009, 0x000000008000000a,
    0x000000008000808b, 0x800000000000008b, 0x8000000000008089, 0x8000000000008003,
    0x8000000000008002, 0x8000000000000080, 0x000000000000800a, 0x800000008000000a,
    0x8000000080008081, 0x8000000000008080, 0x0000000080000001, 0x8000000080008008]

/-- The permutation. -/
def permute (s : State) : State := roundConstants.foldl State.round s

/-- How many bytes enter the state between two permutations. -/
def rate : Nat := 136

/-- The lane at place `i` of a block. -/
def lane (block : Bytes) (i : Nat) : UInt64 :=
  UInt64.ofNat (LittleEndian.decode ((block.drop (8 * i)).take 8))

/-- A block of `rate` bytes as a state whose remaining lanes are zero. -/
def ofBlock (block : Bytes) : State :=
  ⟨⟨lane block 0, lane block 1, lane block 2, lane block 3, lane block 4⟩,
    ⟨lane block 5, lane block 6, lane block 7, lane block 8, lane block 9⟩,
    ⟨lane block 10, lane block 11, lane block 12, lane block 13, lane block 14⟩,
    ⟨lane block 15, lane block 16, 0, 0, 0⟩, ⟨0, 0, 0, 0, 0⟩⟩

/-- Takes in `count` blocks from the front of the input. -/
def absorb : Nat → Bytes → State → State
  | 0, _, s => s
  | count + 1, data, s =>
    let b := ofBlock (data.take rate)
    absorb count (data.drop rate)
      (permute ⟨s.v.xor b.v, s.w.xor b.w, s.x.xor b.x, s.y.xor b.y, s.z.xor b.z⟩)

/-- The input followed by a `1` bit, zeros, and a final `1` bit that ends the last block. -/
def pad (data : Bytes) : Bytes :=
  let free := rate - data.length % rate
  if free = 1 then data ++ [0x81] else data ++ 0x01 :: List.replicate (free - 2) 0 ++ [0x80]

def laneBytes (l : UInt64) : Bytes := LittleEndian.encode 8 l.toNat

def hash (data : Bytes) : FixedBytes 32 :=
  let s := absorb (data.length / rate + 1) (pad data) .zero
  ⟨laneBytes s.v.a ++ laneBytes s.v.b ++ laneBytes s.v.c ++ laneBytes s.v.d, by
    simp [laneBytes]⟩

/-- The hash of the empty byte string. -/
example : (hash []).bytes =
    [0xc5, 0xd2, 0x46, 0x01, 0x86, 0xf7, 0x23, 0x3c, 0x92, 0x7e, 0x7d, 0xb2, 0xdc, 0xc7, 0x03, 0xc0,
      0xe5, 0x00, 0xb6, 0x53, 0xca, 0x82, 0x27, 0x3b, 0x7b, 0xfa, 0xd8, 0x04, 0x5d, 0x85, 0xa4,
      0x70] := by
  decide +kernel

end RelayGate.Keccak
