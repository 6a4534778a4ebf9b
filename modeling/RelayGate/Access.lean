import RelayGate.Invocation
import RelayGate.LoaderState

/-!
# Access to accounts

A call names its accounts by their places. Before its work starts, each account is taken in order and
has to be of the right form, and then has to satisfy the conditions on its role: be the address of the
record that it is meant to hold, be writable, belong to the right authority. These are the pieces of
which such checks are made; each blames the account's role.
-/

namespace RelayGate.Access

/-! ## Taking accounts -/

/-- The address at a place of the call. -/
def take (inv : Invocation) (place : Nat) (role : Role) : Except Rejection Key :=
  match inv.accounts[place]? with
  | some m => .ok m.key
  | none => .error ((Rejection.access .missingAccount).blaming role)

/-- The address at a place, of an account that the call is about to make. -/
def takeNew (inv : Invocation) (place : Nat) : Except Rejection Key :=
  match inv.accounts[place]? with
  | some m => .ok m.key
  | none => .error (.access .missingAccount)

/-- The address at a place, of an account that signed. -/
def takeSigner (inv : Invocation) (place : Nat) (role : Role) : Except Rejection Key := do
  let key ← take inv place role
  ensure (inv.signs key = true) ((Rejection.access .notSigner).blaming role)
  pure key

/-- The account at a place has to be a program. -/
def takeProgram (inv : Invocation) (store : Store) (program : Key) (place : Nat) (role : Role) :
    Except Rejection Key := do
  let key ← take inv place role
  ensure (key = program) ((Rejection.access .wrongProgram).blaming role)
  ensure ((store.account key).executable = true) ((Rejection.access .notExecutable).blaming role)
  pure key

/-- The account has to be claimed, and by this owner. -/
def checkOwner (a : Account) (owner : Key) (role : Role) : Except Rejection Unit := do
  ensure (¬(a.owner = .system ∧ a.lamports = 0)) ((Rejection.access .notInitialized).blaming role)
  ensure (a.owner = owner) ((Rejection.access .wrongOwner).blaming role)

/-- The record in an account of the gate. -/
def load (α : Type) [Record α] (store : Store) (key : Key) (role : Role) : Except Rejection α := do
  let a := store.account key
  checkOwner a .gate role
  (Record.decode α a.data).mapError (·.blaming role)

/-- The address and the record at a place. -/
def takeRecord (α : Type) [Record α] (inv : Invocation) (store : Store) (place : Nat) (role : Role) :
    Except Rejection (Key × α) := do
  let key ← take inv place role
  let r ← load α store key role
  pure (key, r)

/-- Who may replace a program, as the account at a place says, and the address of that account. -/
def takeProgramData (inv : Invocation) (store : Store) (place : Nat) (role : Role) :
    Except Rejection (Key × Option Key) := do
  let key ← take inv place role
  let a := store.account key
  checkOwner a .loader role
  match LoaderState.decode a.data with
  | some (.programData _ authority) => pure (key, authority)
  | some _ => .error ((Rejection.access .notProgramData).blaming role)
  | none => .error ((Rejection.host .invalidAccountData).blaming role)

/-- Where the loader keeps what belongs to a program; nowhere, if the program is not the loader's. -/
def programDataAddress (store : Store) (program : Key) : Except Rejection (Option Key) :=
  let a := store.account program
  if a.owner = .loader then
    match LoaderState.decode a.data with
    | some (.program key) => .ok (some key)
    | _ => .error (.host .invalidAccountData)
  else .ok none

/-! ## Conditions on roles -/

/-- A condition with a refusal of its own. -/
def check (condition : Prop) [Decidable condition] (e : GateError) (role : Role) :
    Except Rejection Unit :=
  ensure condition ((Rejection.gate e).blaming role)

/-- The account has to be writable. -/
def checkWritable (inv : Invocation) (key : Key) (role : Role) : Except Rejection Unit :=
  ensure (inv.writes key = true) ((Rejection.access .notWritable).blaming role)

/-- The account has to be at the address that the record has with the bump it states. -/
def checkDerived (scheme : AddressScheme) (key : Key) (record : RecordKey) (bump : UInt8)
    (role : Role) : Except Rejection Unit :=
  ensure (scheme.derive record.seeds bump = some key) ((Rejection.access .wrongSeeds).blaming role)

/-- The account has to be at the address of the record. Gives the bump. -/
def checkLocated (scheme : AddressScheme) (key : Key) (record : RecordKey) (role : Role) :
    Except Rejection UInt8 :=
  match scheme.locate record with
  | some (address, bump) =>
    if key = address then .ok bump else .error ((Rejection.access .wrongSeeds).blaming role)
  | none => .error ((Rejection.access .wrongSeeds).blaming role)

/-- A gateway has to be at its address, and its authority is the one who calls. -/
def checkGateway (scheme : AddressScheme) (key : Key) (gateway : Gateway) (authority : Key) :
    Except Rejection Unit := do
  checkDerived scheme key (.gateway gateway.chain) gateway.bump .gateway
  check (gateway.isAuthority authority = true) .unauthorized .gateway

/-! ## Writing back -/

/-- The store in which an account holds another record. -/
def writeRecord {α : Type} [Record α] (store : Store) (key : Key) (r : α) :
    Except Rejection Store := do
  let a := store.account key
  let data ← Record.write a.data r
  pure (store.put key { a with data })

/-- The same for the account in a role, which is to blame if it is too short. -/
def saveRecord {α : Type} [Record α] (store : Store) (key : Key) (r : α) (role : Role) :
    Except Rejection Store :=
  (writeRecord store key r).mapError (·.blaming role)

end RelayGate.Access
