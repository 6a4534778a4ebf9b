import RelayGate.Text.Base58

/-!
# Keys

A key names an account, a signer or a program. The keys below belong to the host; their values are
fixed, and so is the key under which the gate itself is deployed.
-/

namespace RelayGate

/-- The address of an account, which is also how a signer and a program are named. -/
abbrev Key := FixedBytes 32

abbrev Digest := FixedBytes 32

namespace Key

/-- The text of a key in log lines. -/
def base58 (key : Key) : String := Base58.encode key.bytes

/-- The program that owns every account nobody has claimed. -/
def system : Key := FixedBytes.zero 32

/-- The key under which the gate is deployed. -/
def gate : Key :=
  ⟨[0x53, 0xac, 0x5b, 0xad, 0x45, 0xa8, 0xda, 0x23, 0x51, 0x4d, 0xa2, 0x92, 0x83, 0x84, 0xe7, 0xfb,
    0x84, 0x2b, 0x16, 0x69, 0xcc, 0xb5, 0x88, 0xd1, 0x1e, 0x5d, 0x0b, 0x85, 0x08, 0xf7, 0xbc, 0x8d],
    rfl⟩

/-- The program that owns deployed programs and the accounts that say who may replace them. -/
def loader : Key :=
  ⟨[0x02, 0xa8, 0xf6, 0x91, 0x4e, 0x88, 0xa1, 0xb0, 0xe2, 0x10, 0x15, 0x3e, 0xf7, 0x63, 0xae, 0x2b,
    0x00, 0xc2, 0xb9, 0x3d, 0x16, 0xc1, 0x24, 0xd2, 0xc0, 0x53, 0x7a, 0x10, 0x04, 0x80, 0x00, 0x00],
    rfl⟩

/-- The account in which the host shows the instructions of the running transaction. -/
def instructions : Key :=
  ⟨[0x06, 0xa7, 0xd5, 0x17, 0x18, 0x7b, 0xd1, 0x66, 0x35, 0xda, 0xd4, 0x04, 0x55, 0xfd, 0xc2, 0xc0,
    0xc1, 0x24, 0xc6, 0x8f, 0x21, 0x56, 0x75, 0xa5, 0xdb, 0xba, 0xcb, 0x5f, 0x08, 0x00, 0x00, 0x00],
    rfl⟩

/-- The owner of the host's own accounts. -/
def sysvar : Key :=
  ⟨[0x06, 0xa7, 0xd5, 0x17, 0x18, 0x75, 0xf7, 0x29, 0xc7, 0x3d, 0x93, 0x40, 0x8f, 0x21, 0x61, 0x20,
    0x06, 0x7e, 0xd8, 0x8c, 0x76, 0xe0, 0x8c, 0x28, 0x7f, 0xc1, 0x94, 0x60, 0x00, 0x00, 0x00, 0x00],
    rfl⟩

/-- The native program that checks Ed25519 signatures before a transaction runs. -/
def ed25519 : Key :=
  ⟨[0x03, 0x7d, 0x46, 0xd6, 0x7c, 0x93, 0xfb, 0xbe, 0x12, 0xf9, 0x42, 0x8f, 0x83, 0x8d, 0x40, 0xff,
    0x05, 0x70, 0x74, 0x49, 0x27, 0xf4, 0x8a, 0x64, 0xfc, 0xca, 0x70, 0x44, 0x80, 0x00, 0x00, 0x00],
    rfl⟩

end Key

end RelayGate
