import RelayGate.Bytes.Codec

/-!
# Layers

Approvals are asked of three groups of signers, from the operator of the network down to the project
that receives the message.
-/

namespace RelayGate

/-- A group of signers whose approval a message needs. -/
inductive Layer where
  /-- The core signers of the relaying network. -/
  | via
  /-- The validators of one source chain. -/
  | chain
  /-- The signers of the receiving project. -/
  | project
deriving DecidableEq, Repr

namespace Layer

/-- The number of a layer where it is stored or enters an address. -/
def code : Layer → UInt8
  | via => 0
  | chain => 1
  | project => 2

def ofCode? (code : UInt8) : Option Layer :=
  if code = 0 then some via
  else if code = 1 then some chain
  else if code = 2 then some project
  else none

def name : Layer → String
  | via => "Via"
  | chain => "Chain"
  | project => "Project"

@[simp] theorem ofCode?_code (layer : Layer) : ofCode? layer.code = some layer := by
  cases layer <;> rfl

theorem code_of_ofCode? {code : UInt8} {layer : Layer} (h : ofCode? code = some layer) :
    layer.code = code := by
  unfold ofCode? at h
  split at h
  · next hc => injection h with h; subst h; exact hc.symm
  · split at h
    · next hc => injection h with h; subst h; exact hc.symm
    · split at h
      · next hc => injection h with h; subst h; exact hc.symm
      · exact absurd h (by simp)

theorem code_injective {a b : Layer} (h : a.code = b.code) : a = b := by
  have hcodes := congrArg ofCode? h
  simpa using hcodes

def codec : Codec Layer := Codec.u8.partialIso ofCode? code

theorem lawful_codec : codec.Lawful Codec.Always :=
  Codec.lawful_u8.partialIso ofCode?_code fun _ _ => code_of_ofCode?

end Layer

end RelayGate
