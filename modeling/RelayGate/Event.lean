import RelayGate.Marker
import RelayGate.Registry

/-!
# Events

What a call announces to the outside. Relayers live on these: a request to send a message is nothing
but its event. An event is written as a tag of eight bytes and its fields.
-/

namespace RelayGate

/-- What a call announces. -/
inductive Event where
  | requested (txId : TxId) (sender : Key) (recipient : Bytes) (destination : UInt64) (data : Bytes)
      (confirmations : UInt16)
  | committed (txId : TxId) (source : UInt64) (digest : Digest)
  | settled (txId : TxId) (source : UInt64) (digest : Digest) (relayer : Key)
  /-- A gateway was made, started or stopped. -/
  | gatewaySwitched (chain : UInt64) (enabled : Bool)
  | counterCreated (source : UInt64) (counter authority gateway : Key)
  /-- A registry was made or changed; this is what it is now. -/
  | registryChanged (layer : Layer) (chain : UInt64) (signers threshold : UInt8) (enabled : Bool)
deriving DecidableEq

namespace Event

inductive Kind where
  | requested
  | committed
  | settled
  | gatewaySwitched
  | counterCreated
  | registryChanged
deriving DecidableEq, Repr

def Kind.all : List Kind :=
  [requested, committed, settled, gatewaySwitched, counterCreated, registryChanged]

def Kind.name : Kind → String
  | requested => "SendRequested"
  | committed => "TxPdaCreated"
  | settled => "MessageProcessed"
  | gatewaySwitched => "SystemStatusChanged"
  | counterCreated => "CounterInitialized"
  | registryChanged => "SignerRegistryUpdated"

def Kind.tag : Kind → Bytes
  | requested => [0xd9, 0x18, 0x84, 0x9a, 0x04, 0x6c, 0x77, 0x7a]
  | committed => [0x0d, 0x38, 0x77, 0xa9, 0x9c, 0xb1, 0x3e, 0x78]
  | settled => [0x02, 0x82, 0x86, 0x2e, 0xf0, 0xe6, 0x54, 0xa7]
  | gatewaySwitched => [0x12, 0x83, 0x29, 0x18, 0x10, 0x74, 0x29, 0x76]
  | counterCreated => [0x73, 0xcd, 0xe9, 0xbd, 0x81, 0xdb, 0x75, 0x40]
  | registryChanged => [0x7b, 0x42, 0xda, 0xdf, 0x79, 0x62, 0x8d, 0x20]

def kind : Event → Kind
  | requested .. => .requested
  | committed .. => .committed
  | settled .. => .settled
  | gatewaySwitched .. => .gatewaySwitched
  | counterCreated .. => .counterCreated
  | registryChanged .. => .registryChanged

/-- The fields of an event, in their order. -/
def body : Event → Bytes
  | requested txId sender recipient destination data confirmations =>
    Codec.u128.encode txId ++ sender.bytes ++ Codec.bytes.encode recipient ++
      Codec.u64.encode destination ++ Codec.bytes.encode data ++ Codec.u16.encode confirmations
  | committed txId source digest =>
    Codec.u128.encode txId ++ Codec.u64.encode source ++ digest.bytes
  | settled txId source digest relayer =>
    Codec.u128.encode txId ++ Codec.u64.encode source ++ digest.bytes ++ relayer.bytes
  | gatewaySwitched chain enabled => Codec.u64.encode chain ++ Codec.bool.encode enabled
  | counterCreated source counter authority gateway =>
    Codec.u64.encode source ++ counter.bytes ++ authority.bytes ++ gateway.bytes
  | registryChanged layer chain signers threshold enabled =>
    Layer.codec.encode layer ++ Codec.u64.encode chain ++ [signers, threshold] ++
      Codec.bool.encode enabled

/-- An event as it is written. -/
def encode (e : Event) : Bytes := e.kind.tag ++ e.body

end Event

/-- The event that announces what a registry is now. The signers are counted in one byte. -/
def Registry.event (r : Registry) : Event :=
  .registryChanged r.layer r.chain (UInt8.ofNat r.signers.length) r.threshold r.enabled

end RelayGate
