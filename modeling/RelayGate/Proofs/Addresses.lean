import RelayGate.Address

/-!
# Addresses that separate records

No two records have the same seeds, so different records have different addresses unless the scheme
itself runs together what it is given. `AddressScheme.Separates` says that it does not. The scheme of the
host does so only where two different byte strings have one hash (`addresses_tell_records_apart`).
-/

namespace RelayGate

/-- What a record is about can be told from its seeds: the first byte tells the kind. -/
theorem RecordKey.seeds_injective {a b : RecordKey} (h : a.seeds = b.seeds) : a = b := by
  have hu64 : ∀ {m n : UInt64}, Codec.u64.encode m = Codec.u64.encode n → m = n :=
    Codec.lawful_u64.encode_inj trivial trivial
  cases a with
  | gateway chain =>
    cases b with
    | gateway chain' => rw [hu64 (List.append_cancel_left h)]
    | counter source => simp [seeds, gatewaySeed, counterSeed] at h
    | registry layer chain' => simp [seeds, gatewaySeed, registrySeed] at h
    | marker key => simp [seeds, gatewaySeed, markerSeed] at h
  | counter source =>
    cases b with
    | gateway chain => simp [seeds, gatewaySeed, counterSeed] at h
    | counter source' => rw [hu64 (List.append_cancel_left h)]
    | registry layer chain => simp [seeds, counterSeed, registrySeed] at h
    | marker key => simp [seeds, counterSeed, markerSeed] at h
  | registry layer chain =>
    cases b with
    | gateway chain' => simp [seeds, gatewaySeed, registrySeed] at h
    | counter source => simp [seeds, counterSeed, registrySeed] at h
    | registry layer' chain' =>
      simp only [seeds, List.append_assoc, List.append_cancel_left_eq, List.singleton_append,
        List.cons.injEq] at h
      rw [Layer.code_injective h.1, hu64 h.2]
    | marker key => simp [seeds, registrySeed, markerSeed] at h
  | marker key =>
    cases b with
    | gateway chain => simp [seeds, gatewaySeed, markerSeed] at h
    | counter source => simp [seeds, counterSeed, markerSeed] at h
    | registry layer chain => simp [seeds, registrySeed, markerSeed] at h
    | marker key' =>
      obtain ⟨source, txId⟩ := key
      obtain ⟨source', txId'⟩ := key'
      simp only [seeds, List.append_assoc, List.append_cancel_left_eq] at h
      obtain ⟨rfl, hid⟩ := Codec.lawful_u64.encode_append_inj trivial trivial h
      rw [Codec.lawful_u128.encode_inj trivial trivial hid]

namespace AddressScheme

/-- An address that is found for one record is derived for no other one, whatever the bump. This asks for
more than that different addresses are found for different records: bumps at which no search ends count,
too, since a stored record is opened with the bump that it states, and nothing is searched again. -/
def Separates (scheme : AddressScheme) : Prop :=
  ∀ key address bump, scheme.locate key = some (address, bump) →
    ∀ key' bump', scheme.derive key'.seeds bump' = some address → key' = key

variable {scheme : AddressScheme} {key key' : RecordKey} {address : Key} {bump bump' : UInt8}

theorem derive_of_findFrom {seeds : Bytes} {n : Nat} (h : scheme.findFrom seeds n = some (address, bump)) :
    scheme.derive seeds bump = some address := by
  induction n with
  | zero => cases h
  | succ n ih =>
    unfold findFrom at h
    split at h
    · next address' hderive =>
      obtain ⟨rfl, rfl⟩ := Prod.mk.inj (Option.some.inj h)
      exact hderive
    · exact ih h

theorem derive_of_locate (h : scheme.locate key = some (address, bump)) :
    scheme.derive key.seeds bump = some address :=
  derive_of_findFrom h

theorem Separates.locate_inj (hs : scheme.Separates) (h : scheme.locate key = some (address, bump))
    (h' : scheme.locate key' = some (address, bump')) : key' = key :=
  hs key address bump h key' bump' (derive_of_locate h')

/-! ## The scheme of the host -/

variable {program : Key}

/-- Behind the seeds stands a byte for the bump and then the same for all records of a program, so the
two can be told from what is hashed, wherever the seeds end. -/
theorem preimage_inj {seeds seeds' : Bytes}
    (h : preimage program seeds bump = preimage program seeds' bump') : seeds = seeds' ∧ bump = bump' := by
  have hbehind := List.append_cancel_right (List.append_cancel_right h)
  obtain ⟨hseeds, hbump⟩ := List.append_inj' hbehind rfl
  exact ⟨hseeds, List.singleton_inj.1 hbump⟩

theorem preimage_eq_iff :
    preimage program key.seeds bump = preimage program key'.seeds bump' ↔ key = key' ∧ bump = bump' := by
  constructor
  · intro h
    obtain ⟨hseeds, hbump⟩ := preimage_inj h
    exact ⟨RecordKey.seeds_injective hseeds, hbump⟩
  · rintro ⟨rfl, rfl⟩
    rfl

/-- Of what was hashed only a point of the curve is refused; any other hash is an address as it is. -/
theorem eq_hash_of_derive {seeds : Bytes} (h : (standard program).derive seeds bump = some address) :
    address = Sha256.hash (preimage program seeds bump) := by
  simp only [standard] at h
  split at h
  · cases h
  · exact (Option.some.inj h).symm

/-- What is hashed for the address of a record tells what the record is about, and the bump. So two
records can only have one address where two different byte strings, those that were hashed for the two
records, have one SHA-256 hash. -/
theorem addresses_tell_records_apart (program : Key) (key key' : RecordKey) :
    (∀ bump bump', preimage program key.seeds bump = preimage program key'.seeds bump' ↔
        key = key' ∧ bump = bump') ∧
      ∀ address bump address' bump', (standard program).locate key = some (address, bump) →
        (standard program).locate key' = some (address', bump') → key ≠ key' →
          preimage program key.seeds bump ≠ preimage program key'.seeds bump' ∧
            (address = address' ↔ Sha256.hash (preimage program key.seeds bump) =
              Sha256.hash (preimage program key'.seeds bump')) := by
  refine ⟨fun bump bump' => preimage_eq_iff, ?_⟩
  intro address bump address' bump' h h' hkeys
  have hinputs : preimage program key.seeds bump ≠ preimage program key'.seeds bump' :=
    fun heq => hkeys (preimage_eq_iff.1 heq).1
  have haddress := eq_hash_of_derive (derive_of_locate h)
  have haddress' := eq_hash_of_derive (derive_of_locate h')
  exact ⟨hinputs, by rw [haddress, haddress']⟩

def exampleGatewayAddress : Key :=
  ⟨[0x84, 0x87, 0xe0, 0x51, 0xf1, 0x0b, 0xaf, 0xa8, 0x84, 0x1c, 0xa7, 0x43, 0x44, 0x1e, 0xa1, 0xdd,
    0x70, 0xa6, 0xd6, 0x19, 0x94, 0x89, 0x47, 0xaf, 0x8f, 0x14, 0x28, 0x30, 0x16, 0x64, 0xe0, 0x22],
    rfl⟩

def exampleCounterAddress : Key :=
  ⟨[0xb3, 0xcf, 0x22, 0x89, 0x91, 0xe1, 0x60, 0x1a, 0x66, 0xaf, 0x8c, 0xeb, 0xeb, 0xff, 0x4d, 0x97,
    0x63, 0xc3, 0x83, 0x2c, 0x0d, 0x24, 0x54, 0x86, 0x0c, 0x82, 0xe1, 0xaa, 0x24, 0x6e, 0xb9, 0xfe],
    rfl⟩

/-- The seeds of a gateway and of a counter have the same layout; only the word in front differs. -/
theorem addresses_tell_records_apart_on_one_chain :
    (standard .gate).locate (.gateway 9) = some (exampleGatewayAddress, 255) ∧
      (standard .gate).locate (.counter 9) = some (exampleCounterAddress, 255) ∧
      RecordKey.gateway 9 ≠ .counter 9 ∧
      preimage .gate (RecordKey.gateway 9).seeds 255 ≠ preimage .gate (RecordKey.counter 9).seeds 255 ∧
      Sha256.hash (preimage .gate (RecordKey.gateway 9).seeds 255) ≠
        Sha256.hash (preimage .gate (RecordKey.counter 9).seeds 255) := by
  have hgateway : (standard .gate).locate (.gateway 9) = some (exampleGatewayAddress, 255) := by
    decide +kernel
  have hcounter : (standard .gate).locate (.counter 9) = some (exampleCounterAddress, 255) := by
    decide +kernel
  have hkeys : RecordKey.gateway 9 ≠ .counter 9 := nofun
  have hother : exampleGatewayAddress ≠ exampleCounterAddress := by decide
  obtain ⟨-, hseparate⟩ := addresses_tell_records_apart .gate (.gateway 9) (.counter 9)
  obtain ⟨hinputs, hshared⟩ := hseparate _ _ _ _ hgateway hcounter hkeys
  exact ⟨hgateway, hcounter, hkeys, hinputs, fun hhash => hother (hshared.2 hhash)⟩

end AddressScheme

end RelayGate
