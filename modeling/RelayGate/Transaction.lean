import RelayGate.Program

/-!
# Transactions

A transaction runs a call of the gate among other instructions, which the host shows to the call. A
call that is refused changes nothing in the store.

Between two calls of the gate, and in the instructions in front of a call, others go on changing
accounts: they send lamports, run programs of their own, or hand over the right to replace the gate's
program. The host keeps them from what the gate owns, so all that they can do is to make any account
that is not the gate's into any other one that is not. Three things that a host allows besides are left
out: lamports that are sent to an account of the gate, a blank account that is given to the gate, and
another program in the place of the gate's.
-/

namespace RelayGate

/-- Others make an account into this one. This needs that the gate owns it neither before nor after. -/
def Store.permit (store : Store) (change : Key × Account) : Store :=
  if (store.account change.1).owner = .gate ∨ change.2.owner = .gate then store
  else store.put change.1 change.2

/-- A call of the gate in its transaction. -/
structure Transaction where
  /-- What others make of accounts since the last call. It stays where the call is refused. -/
  meanwhile : List (Key × Account) := []
  /-- The instructions in front of the call. -/
  before : List Instruction := []
  call : Invocation
  /-- The instructions behind the call. -/
  after : List Instruction := []
  /-- What the host shows in place of the true list of instructions, where it does. -/
  shown : Option Bytes := none
deriving DecidableEq

namespace Transaction

def instructions (t : Transaction) : List Instruction := t.before ++ t.call.instruction :: t.after

/-- What the host shows while the call runs. -/
def sysvarData (t : Transaction) : Bytes :=
  t.shown.getD (Instruction.encodeList t.instructions t.before.length)

/-- The store when it is the turn of the call. -/
def await (t : Transaction) (store : Store) : Store := t.meanwhile.foldl Store.permit store

/-- The store in which the host shows the instructions. -/
def expose (t : Transaction) (store : Store) : Store :=
  (t.await store).put .instructions { owner := .sysvar, lamports := 1, data := t.sysvarData }

def execute (scheme : AddressScheme) (t : Transaction) (store : Store) :
    Traced Rejection Program.Outcome :=
  Program.enter scheme t.call (t.expose store)

def apply (scheme : AddressScheme) (t : Transaction) (store : Store) : Store :=
  match (t.execute scheme store).outcome with
  | .ok result => result.store
  | .error _ => t.expose store

end Transaction

namespace Store

/-- The address at which the loader keeps who may replace the gate's program. -/
def programDataKey : Key :=
  match (AddressScheme.standard .loader).find Key.gate.bytes with
  | some (key, _) => key
  | none => .system

/-- A store with the system program and the gate's program, which the given key may replace. -/
def genesis (programData : Key) (authority : Option Key) : Store :=
  Table.ofList
    [(Key.system, { owner := .system, lamports := 1, executable := true }),
      (Key.gate,
        { owner := .loader, lamports := 1, data := (LoaderState.program programData).encode,
          executable := true }),
      (programData,
        { owner := .loader, lamports := 1, data := (LoaderState.programData 7 authority).encode })]

end Store

end RelayGate
