import RelayGate.Key
import RelayGate.Bytes.Codec

/-!
# What the loader keeps

The loader owns deployed programs and, for each, an account that says who may replace it. The gate
reads these to find out who may set up gateways.
-/

namespace RelayGate

inductive LoaderState where
  | uninitialized
  | buffer (authority : Option Key)
  /-- A program; its code and who may replace it are in another account. -/
  | program (data : Key)
  /-- Since when a program is what it is, and who may replace it. -/
  | programData (slot : UInt64) (authority : Option Key)
deriving DecidableEq

namespace LoaderState

/-- A key that may be missing, behind one byte that says whether it is there. -/
def decodeKey? (data : Bytes) : Option (Option Key) :=
  match data with
  | 0 :: _ => some none
  | 1 :: rest => ((Codec.fixed 32).decode rest).map fun (key, _) => some key
  | _ => none

/-- Reads the data of an account of the loader; bytes behind them are not looked at. -/
def decode (data : Bytes) : Option LoaderState :=
  match (Codec.number 4).decode data with
  | some (0, _) => some .uninitialized
  | some (1, rest) => (decodeKey? rest).map .buffer
  | some (2, rest) => ((Codec.fixed 32).decode rest).map fun (key, _) => .program key
  | some (3, rest) =>
    (Codec.u64.decode rest).bind fun (slot, rest) => (decodeKey? rest).map (.programData slot)
  | _ => none

def encodeKey? : Option Key → Bytes
  | none => [0]
  | some key => 1 :: key.bytes

def encode : LoaderState → Bytes
  | uninitialized => (Codec.number 4).encode 0
  | buffer authority => (Codec.number 4).encode 1 ++ encodeKey? authority
  | program data => (Codec.number 4).encode 2 ++ data.bytes
  | programData slot authority =>
    (Codec.number 4).encode 3 ++ Codec.u64.encode slot ++ encodeKey? authority

end LoaderState

end RelayGate
