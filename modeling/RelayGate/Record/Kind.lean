import RelayGate.Bytes

/-!
# Kinds of records

Four kinds of records are stored in accounts. The first eight bytes of an account tell which kind it
holds.
-/

namespace RelayGate

/-- What an account of the gate holds. -/
inductive RecordKind where
  | gateway
  | counter
  | marker
  | registry
deriving DecidableEq, Repr

namespace RecordKind

def tagSize : Nat := 8

/-- The bytes in front of a record. -/
def tag : RecordKind → Bytes
  | gateway => [0x65, 0x07, 0xf2, 0xf7, 0x7f, 0x09, 0xc2, 0xef]
  | counter => [0xbb, 0xf9, 0x53, 0xe6, 0xb1, 0x4f, 0x16, 0x58]
  | marker => [0x6a, 0x68, 0xbb, 0x23, 0xed, 0x94, 0xec, 0x50]
  | registry => [0x25, 0x5e, 0xf5, 0xf1, 0x85, 0x18, 0xa0, 0x3c]

/-- The name of a kind where a stored record is refused. -/
def name : RecordKind → String
  | gateway => "MessageGateway"
  | counter => "CounterPDA"
  | marker => "TxIdPDA"
  | registry => "SignerRegistry"

@[simp] theorem length_tag (kind : RecordKind) : kind.tag.length = tagSize := by
  cases kind <;> rfl

theorem tag_injective {a b : RecordKind} (h : a.tag = b.tag) : a = b := by
  cases a <;> cases b <;> first | rfl | exact absurd h (by decide)

end RecordKind

end RelayGate
