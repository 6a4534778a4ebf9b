import RelayGate.Call
import RelayGate.Program.Administration
import RelayGate.Program.Deliveries
import RelayGate.Program.Registries

/-!
# The gate as a program

Everything enters here: an invocation has to be for the gate, has to carry the tag of a call, and its
arguments have to be readable, in this order.

The framework that the gate is built with answers one more tag: that of its own calls, which keep a
description of the program's interface in an account. They are not calls of the gate and have no part
here; data with their tag are refused like any data that start with no tag of a call.
-/

namespace RelayGate.Program

/-- Runs a call. -/
def run (scheme : AddressScheme) (inv : Invocation) (store : Store) : Call → Traced Rejection Outcome
  | .createGateway chain => createGateway scheme inv store chain
  | .switchGateway enabled => switchGateway scheme inv store enabled
  | .createCounter source => createCounter scheme inv store source
  | .createRegistry layer chain signers threshold =>
    createRegistry scheme inv store layer chain signers threshold
  | .changeRegistry layer chain change => changeRegistry scheme inv store layer chain change
  | .request txId recipient destination data confirmations =>
    request scheme inv store txId recipient destination data confirmations
  | .commit m signatures => commit scheme inv store m signatures
  | .settle m signatures => settle scheme inv store m signatures

/-- Reads the arguments behind a tag. -/
def readArguments (kind : Call.Kind) (data : Bytes) : Except Rejection Call :=
  match kind.decode (data.drop Call.Kind.tagSize) with
  | some call => .ok call
  | none => .error (.access .malformedArguments)

/-- Runs an invocation. -/
def enter (scheme : AddressScheme) (inv : Invocation) (store : Store) : Traced Rejection Outcome := do
  ensure (inv.program = .gate) (Rejection.access .otherProgram)
  match Call.Kind.ofData? inv.data with
  | some kind =>
    .say (.started kind.name)
    let call ← readArguments kind inv.data
    run scheme inv store call
  | none =>
    ensure (inv.data.take Call.Kind.tagSize ≠ Call.eventTag) (Rejection.access .eventTag)
    .fail (.access .unknownCall)

end RelayGate.Program
