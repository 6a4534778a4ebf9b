import RelayGate.Bytes.LittleEndian

/-!
# Points of the Edwards curve

An account address that no private key controls must not be the encoding of a curve point. The curve
is `-x² + y² = 1 + d x² y²` over the field of `2^255 - 19` elements, and a point is encoded by its
`y` coordinate and one bit for the sign of `x`. So a byte string encodes a point when
`x² = (y² - 1) / (d y² + 1)` has a solution, which Euler's criterion decides.
-/

namespace RelayGate.Edwards

/-- The order of the field. -/
def p : Nat := Nat.pow 2 255 - 19

/-- The curve's constant, `-121665 / 121666` in the field. -/
def d : Nat := 37095705934669439343138083508754565189542113879843219016388785533085940283555

/-- `base ^ e` modulo `m`, for an exponent of at most `bits` binary digits. -/
def powMod (m : Nat) : Nat → Nat → Nat → Nat
  | 0, _, _ => 1 % m
  | bits + 1, base, e =>
    let rest := powMod m bits (base * base % m) (e / 2)
    if e % 2 = 1 then base * rest % m else rest

/-- Whether a field element is a square, zero included. -/
def isSquare (a : Nat) : Bool := powMod p 255 (a % p) ((p - 1) / 2) ≤ 1

/-- Whether the bytes encode a point. The bit for the sign of `x` plays no part, and `y` may be
written unreduced. The quotient of two numbers is a square exactly when their product is. -/
def isPoint (key : FixedBytes 32) : Bool :=
  let y := LittleEndian.decode key.bytes % Nat.pow 2 255
  let yy := y * y % p
  isSquare ((yy + p - 1) * (d * yy + 1))

end RelayGate.Edwards
