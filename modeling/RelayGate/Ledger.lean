import RelayGate.Delivery
import RelayGate.Table

/-!
# Ledgers

The two phases over markers and counters held in memory. A ledger serves one gateway and consults one
registry per layer; all of these may be exchanged or changed between the steps.

A step answers, and the ledger goes on from the state that the step leaves, whether it succeeded or
not. A failed step leaves the ledger as it was, but for one thing: a commit first sees to it that the
source chain has a counter.
-/

namespace RelayGate

instance : Ranked MarkerKey where
  rank k := k.source.toNat <<< 128 + k.txId.toNat
  rank_injective a b h := by
    obtain ⟨s, t⟩ := a
    obtain ⟨s', t'⟩ := b
    have ht : t.toNat < 2 ^ 128 := t.isLt
    have ht' : t'.toNat < 2 ^ 128 := t'.isLt
    dsimp only at h
    have hs : s = s' := UInt64.toNat_inj.1 (by omega)
    subst hs
    have htt : t = t' := BitVec.eq_of_toNat_eq (by omega)
    subst htt
    rfl

/-- Pending markers, counters, and the configuration they are used with. -/
structure Ledger where
  /-- The gateway that messages have to pass. -/
  gateway : Gateway
  via : Registry
  chain : Registry
  project : Option Registry
  markers : Table MarkerKey Marker
  counters : Table UInt64 Counter

namespace Ledger

/-- The bump of a counter that is made on demand. -/
def freshBump : UInt8 := 253

def layers (l : Ledger) : Layers := { via := l.via, chain := l.chain, project := l.project }

def registry? (l : Ledger) : Layer → Option Registry
  | .via => some l.via
  | .chain => some l.chain
  | .project => l.project

def setRegistry (l : Ledger) (r : Registry) : Layer → Ledger
  | .via => { l with via := r }
  | .chain => { l with chain := r }
  | .project => { l with project := some r }

/-- The counter of a source chain, fresh when the chain has none. -/
def counter (l : Ledger) (source : UInt64) : Counter :=
  match l.counters.get? source with
  | some c => c
  | none => { chain := source, highest := 0, bump := freshBump }

inductive Step where
  | commit (m : Message) (signatures : List Signature) (bump : UInt8)
  | settle (m : Message) (signatures : List Signature) (verify : Verifier)
  | changeRegistry (layer : Layer) (change : Registry.Change)
  | setGateway (gateway : Gateway)
  | setProject (project : Option Registry)
  /-- Store a marker by force. -/
  | putMarker (key : MarkerKey) (marker : Marker)

/-- What a successful step reports. -/
inductive Answer where
  | committed (marker : Marker)
  | settled (settlement : Delivery.Settlement)
  | done
deriving DecidableEq

/-- The ledger in which the registry of a layer is changed. A Project registry that is not there stays
absent. -/
def changeRegistry (l : Ledger) (layer : Layer) (change : Registry.Change) :
    Except GateError Ledger :=
  match l.registry? layer with
  | some r => do
    let r ← r.apply change
    pure (l.setRegistry r layer)
  | none => .ok l

/-- Commits a message: makes the counter if need be, asks for the marker, moves the counter on and
stores the marker. -/
def commit (l : Ledger) (m : Message) (signatures : List Signature) (bump : UInt8) :
    Ledger × Traced GateError Answer :=
  let counter := l.counter m.source
  let opened := { l with counters := l.counters.insert m.source counter }
  let result : Traced GateError (Marker × Counter) := do
    let marker ←
      Delivery.commit (l.markers.get? m.key) l.gateway counter m signatures bump
    let counter ← counter.advance m.txId
    pure (marker, counter)
  match result.outcome with
  | .ok (marker, counter) =>
    ({ opened with
        counters := opened.counters.insert m.source counter
        markers := l.markers.insert m.key marker },
      ⟨result.log, .ok (.committed marker)⟩)
  | .error e => (opened, ⟨result.log, .error e⟩)

/-- Settles a message and removes its marker. -/
def settle (l : Ledger) (m : Message) (signatures : List Signature) (verify : Verifier) :
    Ledger × Traced GateError Answer :=
  let result :=
    Delivery.settle (l.markers.get? m.key) l.gateway m signatures l.layers verify
  match result.outcome with
  | .ok settlement =>
    ({ l with markers := l.markers.erase m.key }, ⟨result.log, .ok (.settled settlement)⟩)
  | .error e => (l, ⟨result.log, .error e⟩)

/-- The ledger after a step, and the step's answer. -/
def step (l : Ledger) : Step → Ledger × Traced GateError Answer
  | .commit m signatures bump => l.commit m signatures bump
  | .settle m signatures verify => l.settle m signatures verify
  | .changeRegistry layer change =>
    match l.changeRegistry layer change with
    | .ok l' => (l', pure .done)
    | .error e => (l, .fail e)
  | .setGateway gateway => ({ l with gateway }, pure .done)
  | .setProject project => ({ l with project }, pure .done)
  | .putMarker key marker =>
    ({ l with markers := l.markers.insert key marker }, pure .done)

/-- The ledger after a list of steps, and their answers. -/
def run (l : Ledger) : List Step → Ledger × List (Traced GateError Answer)
  | [] => (l, [])
  | s :: rest =>
    let (l, answer) := l.step s
    let (l, answers) := l.run rest
    (l, answer :: answers)

end Ledger

end RelayGate
