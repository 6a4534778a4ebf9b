import RelayGate.Curve.Edwards
import RelayGate.Hash.Sha256
import RelayGate.Key
import RelayGate.Layer
import RelayGate.Marker

/-!
# Addresses of records

A record is found by what it is about: its address is derived from seeds that say what kind of record
it is and for which chain, layer or transaction. One more byte, the bump, is hashed along; the address
is the one of the highest bump that gives a key which is no point of the curve, so that nobody holds a
private key for it.

How an address comes from seeds and bump is a parameter of everything below it, an `AddressScheme`.
What the gate guarantees depends on different records having different addresses, and a scheme is
where this can be said.
-/

namespace RelayGate

/-- What a record is about. -/
inductive RecordKey where
  | gateway (chain : UInt64)
  | counter (source : UInt64)
  | registry (layer : Layer) (chain : UInt64)
  | marker (key : MarkerKey)
deriving DecidableEq

namespace RecordKey

/-- The seed of gateways, the word "gateway". -/
def gatewaySeed : Bytes := [0x67, 0x61, 0x74, 0x65, 0x77, 0x61, 0x79]

/-- The seed of counters, the word "counter". -/
def counterSeed : Bytes := [0x63, 0x6f, 0x75, 0x6e, 0x74, 0x65, 0x72]

/-- The seed of markers, the letters "tx". -/
def markerSeed : Bytes := [0x74, 0x78]

/-- The seed of registries, the word "signer_registry". -/
def registrySeed : Bytes :=
  [0x73, 0x69, 0x67, 0x6e, 0x65, 0x72, 0x5f, 0x72, 0x65, 0x67, 0x69, 0x73, 0x74, 0x72, 0x79]

/-- The seeds of a record, one behind the other. -/
def seeds : RecordKey → Bytes
  | gateway chain => gatewaySeed ++ Codec.u64.encode chain
  | counter source => counterSeed ++ Codec.u64.encode source
  | registry layer chain => registrySeed ++ [layer.code] ++ Codec.u64.encode chain
  | marker key => markerSeed ++ Codec.u64.encode key.source ++ Codec.u128.encode key.txId

end RecordKey

/-- How addresses are derived for one program. -/
structure AddressScheme where
  /-- The address of seeds and a bump, when there is one. -/
  derive : Bytes → UInt8 → Option Key

namespace AddressScheme

/-- The word "ProgramDerivedAddress", which ends what is hashed for an address. -/
def domain : Bytes :=
  [0x50, 0x72, 0x6f, 0x67, 0x72, 0x61, 0x6d, 0x44, 0x65, 0x72, 0x69,
    0x76, 0x65, 0x64, 0x41, 0x64, 0x64, 0x72, 0x65, 0x73, 0x73]

/-- What is hashed for an address. -/
def preimage (program : Key) (seeds : Bytes) (bump : UInt8) : Bytes :=
  seeds ++ [bump] ++ program.bytes ++ domain

/-- The scheme of the host: the SHA-256 hash, unless it is a point of the curve. -/
def standard (program : Key) : AddressScheme where
  derive seeds bump :=
    let key := Sha256.hash (preimage program seeds bump)
    if Edwards.isPoint key then none else some key

/-- The address with the highest bump from `bump` down to one. -/
def findFrom (scheme : AddressScheme) (seeds : Bytes) : Nat → Option (Key × UInt8)
  | 0 => none
  | bump + 1 =>
    match scheme.derive seeds (UInt8.ofNat (bump + 1)) with
    | some key => some (key, UInt8.ofNat (bump + 1))
    | none => findFrom scheme seeds bump

/-- The address of seeds, and its bump. -/
def find (scheme : AddressScheme) (seeds : Bytes) : Option (Key × UInt8) :=
  scheme.findFrom seeds 255

/-- The address of a record, and its bump. -/
def locate (scheme : AddressScheme) (key : RecordKey) : Option (Key × UInt8) := scheme.find key.seeds

end AddressScheme

end RelayGate
