import RelayGate.Check
import RelayGate.GateError
import RelayGate.Log
import RelayGate.Record.Kind

/-!
# Rejections

A call can be refused for three kinds of reasons: it breaks a rule of the gate, it is not properly
addressed (a missing account, a wrong owner, an address that is not the record's), or the host refuses
something that the gate asks of it. Where an account is to blame, the rejection names the part that
this account plays in the call, or the kind of record that was looked for in it.
-/

namespace RelayGate

/-- A call that is not properly addressed. -/
inductive AccessError where
  | unknownCall
  | malformedArguments
  /-- The tag is the one reserved for events. -/
  | eventTag
  | notWritable
  /-- A condition on an account fails. -/
  | conditionFailed
  /-- The address is not the one of the record. -/
  | wrongSeeds
  | wrongAddress
  /-- The account is too short for a tag. -/
  | noTag
  | wrongTag
  | malformedRecord
  | recordTooLong
  | missingAccount
  | wrongOwner
  | wrongProgram
  | notExecutable
  | notSigner
  /-- Nobody has claimed the account. -/
  | notInitialized
  /-- The account does not say who may replace a program. -/
  | notProgramData
  | otherProgram
  | payerIsTarget
deriving DecidableEq, Repr

/-- Something that the host refuses. -/
inductive HostError where
  /-- A native program's own number. -/
  | custom (number : UInt32)
  | invalidArgument
  | invalidAccountData
  | missingSignature
  | invalidSeeds
  /-- Not the account that shows the instructions. -/
  | unsupportedSysvar
  | arithmeticOverflow
  | immutable
deriving DecidableEq, Repr

/-- Why a call is refused. -/
inductive Cause where
  | gate (e : GateError)
  | access (e : AccessError)
  | host (e : HostError)
deriving DecidableEq, Repr

/-- The part that an account plays in a call. -/
inductive Role where
  | gateway
  | authority
  /-- The gate's own program. -/
  | program
  /-- The account that says who may replace the gate's program. -/
  | programData
  | systemProgram
  | counter
  | registry
  | marker
  | viaRegistry
  | chainRegistry
  | projectRegistry
  | relayer
  | sender
  | instructions
deriving DecidableEq, Repr

/-- What a rejection blames. -/
inductive Subject where
  | role (r : Role)
  /-- An account that should hold a kind of record. -/
  | record (kind : RecordKind)
deriving DecidableEq, Repr

/-- A refused call. -/
structure Rejection where
  cause : Cause
  /-- What is to blame, where that is an account. -/
  subject : Option Subject := none
deriving DecidableEq, Repr

/-! ## Names, numbers and texts -/

namespace AccessError

def name : AccessError → String
  | unknownCall => "InstructionFallbackNotFound"
  | malformedArguments => "InstructionDidNotDeserialize"
  | eventTag => "EventInstructionStub"
  | notWritable => "ConstraintMut"
  | conditionFailed => "ConstraintRaw"
  | wrongSeeds => "ConstraintSeeds"
  | wrongAddress => "ConstraintAddress"
  | noTag => "AccountDiscriminatorNotFound"
  | wrongTag => "AccountDiscriminatorMismatch"
  | malformedRecord => "AccountDidNotDeserialize"
  | recordTooLong => "AccountDidNotSerialize"
  | missingAccount => "AccountNotEnoughKeys"
  | wrongOwner => "AccountOwnedByWrongProgram"
  | wrongProgram => "InvalidProgramId"
  | notExecutable => "InvalidProgramExecutable"
  | notSigner => "AccountNotSigner"
  | notInitialized => "AccountNotInitialized"
  | notProgramData => "AccountNotProgramData"
  | otherProgram => "DeclaredProgramIdMismatch"
  | payerIsTarget => "TryingToInitPayerAsProgramAccount"

def code : AccessError → Nat
  | unknownCall => 101
  | malformedArguments => 102
  | eventTag => 1500
  | notWritable => 2000
  | conditionFailed => 2003
  | wrongSeeds => 2006
  | wrongAddress => 2012
  | noTag => 3001
  | wrongTag => 3002
  | malformedRecord => 3003
  | recordTooLong => 3004
  | missingAccount => 3005
  | wrongOwner => 3007
  | wrongProgram => 3008
  | notExecutable => 3009
  | notSigner => 3010
  | notInitialized => 3012
  | notProgramData => 3013
  | otherProgram => 4100
  | payerIsTarget => 4101

def message : AccessError → String
  | unknownCall => "Fallback functions are not supported"
  | malformedArguments => "The program could not deserialize the given instruction"
  | eventTag => "The program was compiled without `event-cpi` feature"
  | notWritable => "A mut constraint was violated"
  | conditionFailed => "A raw constraint was violated"
  | wrongSeeds => "A seeds constraint was violated"
  | wrongAddress => "An address constraint was violated"
  | noTag => "No discriminator was found on the account"
  | wrongTag => "Account discriminator did not match what was expected"
  | malformedRecord => "Failed to deserialize the account"
  | recordTooLong => "Failed to serialize the account"
  | missingAccount => "Not enough account keys given to the instruction"
  | wrongOwner => "The given account is owned by a different program than expected"
  | wrongProgram => "Program ID was not as expected"
  | notExecutable => "Program account is not executable"
  | notSigner => "The given account did not sign"
  | notInitialized => "The program expected this account to be already initialized"
  | notProgramData => "The given account is not a program data account"
  | otherProgram => "The declared program id does not match the actual program id"
  | payerIsTarget => "You cannot/should not initialize the payer account as a program account"

end AccessError

namespace HostError

def name : HostError → String
  | custom number => s!"Custom({number.toNat})"
  | invalidArgument => "InvalidArgument"
  | invalidAccountData => "InvalidAccountData"
  | missingSignature => "MissingRequiredSignature"
  | invalidSeeds => "InvalidSeeds"
  | unsupportedSysvar => "UnsupportedSysvar"
  | arithmeticOverflow => "ArithmeticOverflow"
  | immutable => "Immutable"

/-- The number of an error. The host's own errors are numbered in the upper half of eight bytes, a
native program's own numbers in the lower half; among these, zero takes the place of the first of
the host's. -/
def code : HostError → Nat
  | custom number => if number = 0 then 1 <<< 32 else number.toNat
  | invalidArgument => 2 <<< 32
  | invalidAccountData => 4 <<< 32
  | missingSignature => 8 <<< 32
  | invalidSeeds => 14 <<< 32
  | unsupportedSysvar => 17 <<< 32
  | arithmeticOverflow => 24 <<< 32
  | immutable => 25 <<< 32

def hexadecimal (n : Nat) : String := String.ofList (Nat.toDigits 16 n)

def message : HostError → String
  | custom number => "Custom program error: 0x" ++ hexadecimal number.toNat
  | invalidArgument => "The arguments provided to a program instruction were invalid"
  | invalidAccountData => "An account's data contents was invalid"
  | missingSignature => "A signature was required but not found"
  | invalidSeeds => "Provided seeds do not result in a valid address"
  | unsupportedSysvar => "Unsupported sysvar"
  | arithmeticOverflow => "Program arithmetic overflowed"
  | immutable => "Account is immutable"

end HostError

namespace Cause

def name : Cause → String
  | gate e => e.name
  | access e => e.name
  | host e => e.name

def code : Cause → Nat
  | gate e => e.code
  | access e => e.code
  | host e => e.code

def message : Cause → String
  | gate e => e.message
  | access e => e.message
  | host e => e.message

end Cause

namespace Role

def name : Role → String
  | gateway => "gateway"
  | authority => "authority"
  | program => "program"
  | programData => "program_data"
  | systemProgram => "system_program"
  | counter => "counter_pda"
  | registry => "signer_registry"
  | marker => "tx_id_pda"
  | viaRegistry => "via_registry"
  | chainRegistry => "chain_registry"
  | projectRegistry => "project_registry"
  | relayer => "relayer"
  | sender => "sender"
  | instructions => "instructions"

end Role

def Subject.name : Subject → String
  | role r => r.name
  | record kind => kind.name

namespace Rejection

def gate (e : GateError) : Rejection := { cause := .gate e }

/-- A call that is not properly addressed, with no account to blame. -/
def access (e : AccessError) : Rejection := { cause := .access e }

def host (e : HostError) : Rejection := { cause := .host e }

/-- The same rejection, blamed on the account in a role. -/
def blaming (e : Rejection) (role : Role) : Rejection := { e with subject := some (.role role) }

end Rejection

/-- A broken rule refuses the call that breaks it. -/
instance : MonadLift (Except GateError) (Except Rejection) where
  monadLift result := result.mapError .gate

instance : MonadLift (Except GateError) (Traced Rejection) where
  monadLift result := .ofExcept (result.mapError .gate)

instance : MonadLift (Traced GateError) (Traced Rejection) where
  monadLift result := result.mapError .gate

/-- What the host refuses, the call does not survive. -/
instance : MonadLift (Except HostError) (Except Rejection) where
  monadLift result := result.mapError .host

instance : MonadLift (Except HostError) (Traced Rejection) where
  monadLift result := .ofExcept (result.mapError .host)

section

variable {α : Type}

@[simp] theorem liftM_gate (x : Except GateError α) :
    (liftM x : Except Rejection α) = x.mapError .gate := rfl

@[simp] theorem liftM_host (x : Except HostError α) :
    (liftM x : Except Rejection α) = x.mapError .host := rfl

@[simp] theorem outcome_liftM_gate (x : Except GateError α) :
    (liftM x : Traced Rejection α).outcome = x.mapError .gate := rfl

@[simp] theorem outcome_liftM_traced (x : Traced GateError α) :
    (liftM x : Traced Rejection α).outcome = x.outcome.mapError .gate := rfl

@[simp] theorem outcome_liftM_host (x : Except HostError α) :
    (liftM x : Traced Rejection α).outcome = x.mapError .host := rfl

end

end RelayGate
