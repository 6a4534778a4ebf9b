import RelayGate.Marker
import RelayGate.Registry

/-!
# Calls

What the gate can be asked to do, and how a request is written: a tag of eight bytes for the kind of
call, then the arguments. Bytes behind the arguments are not looked at.
-/

namespace RelayGate

/-- What the gate is asked to do. -/
inductive Call where
  | createGateway (chain : UInt64)
  | switchGateway (enabled : Bool)
  | createCounter (source : UInt64)
  | createRegistry (layer : Layer) (chain : UInt64) (signers : List Key) (threshold : UInt8)
  | changeRegistry (layer : Layer) (chain : UInt64) (change : Registry.Change)
  /-- Announce a message that is to be sent to another chain. -/
  | request (txId : TxId) (recipient : Bytes) (destination : UInt64) (data : Bytes)
      (confirmations : UInt16)
  | commit (m : Message) (signatures : List Signature)
  | settle (m : Message) (signatures : List Signature)
deriving DecidableEq

namespace Call

inductive Kind where
  | createGateway
  | switchGateway
  | createCounter
  | createRegistry
  | replaceSigners
  | addSigner
  | removeSigner
  | setThreshold
  | switchRegistry
  | request
  | commit
  | settle
deriving DecidableEq, Repr

namespace Kind

def all : List Kind :=
  [createGateway, switchGateway, createCounter, createRegistry, replaceSigners, addSigner,
    removeSigner, setThreshold, switchRegistry, request, commit, settle]

/-- The name of a kind in log lines. -/
def name : Kind → String
  | createGateway => "InitializeGateway"
  | switchGateway => "SetSystemEnabled"
  | createCounter => "InitializeCounter"
  | createRegistry => "InitializeSignerRegistry"
  | replaceSigners => "UpdateSigners"
  | addSigner => "AddSigner"
  | removeSigner => "RemoveSigner"
  | setThreshold => "UpdateThreshold"
  | switchRegistry => "SetRegistryEnabled"
  | request => "SendMessage"
  | commit => "CreateTxPda"
  | settle => "ProcessMessage"

def tag : Kind → Bytes
  | createGateway => [0x79, 0x7d, 0x20, 0x2b, 0x7b, 0x0b, 0xf0, 0x76]
  | switchGateway => [0x6f, 0x38, 0xb8, 0x9a, 0x01, 0xb2, 0xfd, 0xb2]
  | createCounter => [0x43, 0x59, 0x64, 0x57, 0xe7, 0xac, 0x23, 0x7c]
  | createRegistry => [0xc7, 0x47, 0x89, 0xc1, 0xb8, 0x9e, 0x9f, 0x23]
  | replaceSigners => [0xe4, 0x52, 0x44, 0x96, 0x5c, 0x42, 0x8c, 0xae]
  | addSigner => [0x4c, 0x68, 0x3d, 0x33, 0xb3, 0x8b, 0x2f, 0xde]
  | removeSigner => [0xd4, 0x20, 0x61, 0x2f, 0x3d, 0x43, 0xb8, 0x8d]
  | setThreshold => [0xfb, 0x24, 0x18, 0xb3, 0x9d, 0x1f, 0xef, 0xea]
  | switchRegistry => [0xb6, 0xce, 0x6e, 0xa2, 0xbb, 0x23, 0xfa, 0x9c]
  | request => [0x39, 0x28, 0x22, 0xb2, 0xbd, 0x0a, 0x41, 0x1a]
  | commit => [0x0f, 0xa2, 0x5f, 0xee, 0xb1, 0xd3, 0xc5, 0x05]
  | settle => [0x6e, 0xe2, 0x2c, 0x8a, 0xce, 0x29, 0x30, 0x88]

def tagSize : Nat := 8

/-- The kind whose tag the data start with. -/
def ofData? (data : Bytes) : Option Kind := all.find? fun kind => data.take tagSize == kind.tag

end Kind

/-- The tag that is reserved for events. -/
def eventTag : Bytes := [0xe4, 0x45, 0xa5, 0x2e, 0x51, 0xcb, 0x9a, 0x1d]

/-- The layout of the layer and chain that name a registry. -/
def registryCodec : Codec (Layer × UInt64) := Layer.codec.pair Codec.u64

def signersCodec : Codec (List Key × UInt8) := (Codec.fixed 32).list.pair Codec.u8

def requestCodec : Codec (TxId × Bytes × UInt64 × Bytes × UInt16) :=
  Codec.u128.pair <| Codec.bytes.pair <| Codec.u64.pair <| Codec.bytes.pair Codec.u16

def deliveryCodec : Codec (Message × List Signature) := Message.codec.pair Signature.codec.list

/-- Reads the arguments of a kind of call. -/
def Kind.decode (data : Bytes) : Kind → Option Call
  | createGateway => (Codec.u64.decode data).map fun (chain, _) => .createGateway chain
  | switchGateway => (Codec.bool.decode data).map fun (enabled, _) => .switchGateway enabled
  | createCounter => (Codec.u64.decode data).map fun (source, _) => .createCounter source
  | createRegistry =>
    ((registryCodec.pair signersCodec).decode data).map
      fun (((layer, chain), signers, threshold), _) => .createRegistry layer chain signers threshold
  | replaceSigners =>
    ((registryCodec.pair signersCodec).decode data).map
      fun (((layer, chain), signers, threshold), _) =>
        .changeRegistry layer chain (.replaceSigners signers threshold)
  | addSigner =>
    ((registryCodec.pair (Codec.fixed 32)).decode data).map
      fun (((layer, chain), signer), _) => .changeRegistry layer chain (.addSigner signer)
  | removeSigner =>
    ((registryCodec.pair (Codec.fixed 32)).decode data).map
      fun (((layer, chain), signer), _) => .changeRegistry layer chain (.removeSigner signer)
  | setThreshold =>
    ((registryCodec.pair Codec.u8).decode data).map
      fun (((layer, chain), threshold), _) => .changeRegistry layer chain (.setThreshold threshold)
  | switchRegistry =>
    ((registryCodec.pair Codec.bool).decode data).map
      fun (((layer, chain), enabled), _) => .changeRegistry layer chain (.setEnabled enabled)
  | request =>
    (requestCodec.decode data).map
      fun ((txId, recipient, destination, data, confirmations), _) =>
        .request txId recipient destination data confirmations
  | commit => (deliveryCodec.decode data).map fun ((m, signatures), _) => .commit m signatures
  | settle => (deliveryCodec.decode data).map fun ((m, signatures), _) => .settle m signatures

def kindOfChange : Registry.Change → Kind
  | .replaceSigners .. => .replaceSigners
  | .addSigner _ => .addSigner
  | .removeSigner _ => .removeSigner
  | .setThreshold _ => .setThreshold
  | .setEnabled _ => .switchRegistry

def kind : Call → Kind
  | createGateway _ => .createGateway
  | switchGateway _ => .switchGateway
  | createCounter _ => .createCounter
  | createRegistry .. => .createRegistry
  | changeRegistry _ _ change => kindOfChange change
  | request .. => .request
  | commit .. => .commit
  | settle .. => .settle

def encodeChange : Registry.Change → Bytes
  | .replaceSigners signers threshold => signersCodec.encode (signers, threshold)
  | .addSigner signer => signer.bytes
  | .removeSigner signer => signer.bytes
  | .setThreshold threshold => Codec.u8.encode threshold
  | .setEnabled enabled => Codec.bool.encode enabled

def arguments : Call → Bytes
  | createGateway chain => Codec.u64.encode chain
  | switchGateway enabled => Codec.bool.encode enabled
  | createCounter source => Codec.u64.encode source
  | createRegistry layer chain signers threshold =>
    registryCodec.encode (layer, chain) ++ signersCodec.encode (signers, threshold)
  | changeRegistry layer chain change => registryCodec.encode (layer, chain) ++ encodeChange change
  | request txId recipient destination data confirmations =>
    requestCodec.encode (txId, recipient, destination, data, confirmations)
  | commit m signatures => deliveryCodec.encode (m, signatures)
  | settle m signatures => deliveryCodec.encode (m, signatures)

/-- A call as it is written. -/
def encode (call : Call) : Bytes := call.kind.tag ++ call.arguments

end Call

end RelayGate
