import RelayGate.Key
import RelayGate.Bytes.LittleEndian

/-!
# Instructions

A transaction is a list of instructions; each names a program, the accounts it may touch, and its
data. While one of them runs, the host shows the whole list in a byte string: a count, the place of
each instruction, the instructions themselves, and at the very end the index of the running one.
-/

namespace RelayGate

/-- An account as a call names it, with what the call may do to it. -/
structure AccountMeta where
  key : Key
  signer : Bool := false
  writable : Bool := false
deriving DecidableEq

/-- One instruction of a transaction. -/
structure Instruction where
  program : Key
  accounts : List AccountMeta := []
  data : Bytes
deriving DecidableEq

/-- A place outside a byte string was read. -/
inductive OutOfBounds where
  | outOfBounds
deriving DecidableEq

namespace Instruction

/-- The two bytes of a number. -/
def word (n : Nat) : Bytes := LittleEndian.encode 2 n

/-- An account in the list that the host shows: its privileges in two bits, then its address. -/
def encodeMeta (m : AccountMeta) : Bytes :=
  ((if m.signer then 1 else 0) + if m.writable then 2 else 0) :: m.key.bytes

/-- An instruction in the list that the host shows. -/
def encode (i : Instruction) : Bytes :=
  word i.accounts.length ++ i.accounts.flatMap encodeMeta ++ i.program.bytes ++
    word i.data.length ++ i.data

/-- The places at which pieces start that follow each other from `start`. -/
def places : Nat → List Bytes → List Nat
  | _, [] => []
  | start, piece :: rest => start :: places (start + piece.length) rest

/-- The byte string that the host shows while the instruction at `current` runs. -/
def encodeList (instructions : List Instruction) (current : Nat) : Bytes :=
  let pieces := instructions.map encode
  word instructions.length ++ (places (2 + 2 * instructions.length) pieces).flatMap word ++
    pieces.flatten ++ word current

/-! ## Reading what the host shows -/

def read (data : Bytes) (start len : Nat) : Except OutOfBounds Bytes :=
  match Bytes.slice? data start len with
  | some piece => .ok piece
  | none => .error .outOfBounds

/-- The number in the two bytes at `start`. -/
def readWord (data : Bytes) (start : Nat) : Except OutOfBounds Nat := do
  let piece ← read data start 2
  pure (LittleEndian.decode piece)

def readKey (data : Bytes) (start : Nat) : Except OutOfBounds Key :=
  match FixedBytes.slice? 32 data start with
  | some key => .ok key
  | none => .error .outOfBounds

/-- The `count` accounts from `start` on. -/
def readMetas (data : Bytes) : Nat → Nat → Except OutOfBounds (List AccountMeta)
  | 0, _ => pure []
  | count + 1, start => do
    let flags ← read data start 1
    let flags := LittleEndian.decode flags
    let key ← readKey data (start + 1)
    let rest ← readMetas data count (start + 33)
    pure ({ key, signer := flags % 2 = 1, writable := flags / 2 % 2 = 1 } :: rest)

/-- The instruction at an index of the list that the host shows. -/
def readAt (data : Bytes) (index : Nat) : Except OutOfBounds Instruction := do
  let count ← readWord data 0
  if count ≤ index then throw .outOfBounds
  let start ← readWord data (2 + 2 * index)
  let accountCount ← readWord data start
  let accounts ← readMetas data accountCount (start + 2)
  let start := start + 2 + 33 * accountCount
  let program ← readKey data start
  let len ← readWord data (start + 32)
  let data ← read data (start + 34) len
  pure { program, accounts, data }

/-- The index of the running instruction: the last two bytes. -/
def currentIndex (data : Bytes) : Except OutOfBounds Nat := readWord data (data.length - 2)

def readEach (data : Bytes) : List Nat → Except OutOfBounds (List Instruction)
  | [] => pure []
  | index :: rest => do
    let instruction ← readAt data index
    let instructions ← readEach data rest
    pure (instruction :: instructions)

/-- The instructions in front of the running one. -/
def readPreceding (data : Bytes) : Except OutOfBounds (List Instruction) := do
  let current ← currentIndex data
  readEach data (List.range current)

end Instruction

end RelayGate
