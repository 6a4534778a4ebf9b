import RelayGate.Message

/-!
# Counters

A delivery leaves no trace once it is settled, so something has to remember that its transaction id
was used. For each source chain a counter holds the highest id seen, and only higher ones are
accepted.
-/

namespace RelayGate

/-- The highest transaction id seen from one source chain. -/
structure Counter where
  chain : UInt64
  highest : TxId
  bump : UInt8
deriving DecidableEq

namespace Counter

def codec : Codec Counter :=
  (Codec.u64.pair <| Codec.u128.pair Codec.u8).iso
    (fun (chain, highest, bump) => { chain, highest, bump })
    fun c => (c.chain, c.highest, c.bump)

/-- The bytes of a counter behind its tag. -/
def size : Nat := 8 + 16 + 1

/-- Refuses a transaction id that is not above the highest one seen. -/
def checkFresh (c : Counter) (txId : TxId) : Traced GateError Unit := do
  if txId ≤ c.highest then
    .say (.notAbove txId.toNat c.highest.toNat c.chain)
    .fail .txIdTooOld

/-- Moves on to a fresh transaction id. -/
def advance (c : Counter) (txId : TxId) : Traced GateError Counter := do
  c.checkFresh txId
  pure { c with highest := txId }

end Counter

end RelayGate
