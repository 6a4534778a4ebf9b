import RelayGate.Account
import RelayGate.Address
import RelayGate.Instruction

/-!
# Invocations and native calls

An invocation hands a program its accounts with what it may do to each, and data. While it runs, the
program may call the native system program, which makes accounts and moves lamports. A native call may
do no more than the invocation allows, except that the program can sign for an address that it derives
itself: it then shows the seeds and the bump.
-/

namespace RelayGate

/-- A call of a program. -/
structure Invocation where
  program : Key
  accounts : List AccountMeta
  data : Bytes
deriving DecidableEq

namespace Invocation

/-- Whether an account signed. An account that is given twice signed if it did in one place. -/
def signs (inv : Invocation) (key : Key) : Bool :=
  inv.accounts.any fun m => m.key == key && m.signer

def writes (inv : Invocation) (key : Key) : Bool :=
  inv.accounts.any fun m => m.key == key && m.writable

/-- The instruction that a transaction lists for an invocation. -/
def instruction (inv : Invocation) : Instruction :=
  { program := inv.program, accounts := inv.accounts, data := inv.data }

end Invocation

/-! ## The system program -/

namespace System

/-- The address that seeds and a bump give the program the right to sign for. -/
def vouch (scheme : AddressScheme) (seeds : Bytes) (bump : UInt8) : Except HostError Key :=
  match scheme.derive seeds bump with
  | some key => .ok key
  | none => .error .invalidSeeds

/-- An account that has to sign. `vouched` is the address that the program signs for. -/
def checkSigner (inv : Invocation) (vouched : Option Key) (key : Key) : Except HostError Unit :=
  ensure (inv.signs key = true ∨ vouched = some key) .missingSignature

/-- An account that has to be changed. -/
def checkWritable (inv : Invocation) (key : Key) : Except HostError Unit :=
  ensure (inv.writes key = true) .immutable

/-- Moves lamports. The account that pays must be empty of data. The host would not have an account debited
that the system program does not own either: this is not looked at here, and is asked of the payer where
it is said that a payment succeeds. -/
def move (store : Store) (source target : Key) (amount : UInt64) : Except HostError Store := do
  let payer := store.account source
  ensure (payer.data = []) .invalidArgument
  ensure (amount ≤ payer.lamports) (.custom 1)
  let store := store.put source { payer with lamports := payer.lamports - amount }
  let payee := store.account target
  pure (store.put target { payee with lamports := payee.lamports + amount })

/-- Gives an unclaimed account data of zeros. -/
def size (store : Store) (key : Key) (space : Nat) : Except HostError Store := do
  let a := store.account key
  ensure (a.data = [] ∧ a.owner = .system) (.custom 0)
  pure (store.put key { a with data := List.replicate space 0 })

def give (store : Store) (key owner : Key) : Store :=
  store.put key { store.account key with owner }

/-- The native call that moves lamports. -/
def transfer (inv : Invocation) (store : Store) (source target : Key) (amount : UInt64) :
    Except HostError Store := do
  checkSigner inv none source
  checkWritable inv source
  checkWritable inv target
  move store source target amount

/-- The native call that gives an unclaimed account data of zeros. -/
def allocate (inv : Invocation) (store : Store) (vouched key : Key) (space : Nat) :
    Except HostError Store := do
  checkSigner inv (some vouched) key
  checkWritable inv key
  size store key space

/-- The native call that gives an account away. -/
def assign (inv : Invocation) (store : Store) (vouched key owner : Key) :
    Except HostError Store := do
  checkSigner inv (some vouched) key
  checkWritable inv key
  pure (give store key owner)

/-- The native call that makes an account: it gets data of zeros, an owner and a balance. -/
def createAccount (inv : Invocation) (store : Store) (vouched payer key owner : Key) (space : Nat)
    (lamports : UInt64) : Except HostError Store := do
  checkSigner inv (some vouched) payer
  checkWritable inv payer
  checkSigner inv (some vouched) key
  checkWritable inv key
  ensure ((store.account key).lamports = 0) (.custom 0)
  let store ← size store key space
  move (give store key owner) payer key lamports

end System

end RelayGate
