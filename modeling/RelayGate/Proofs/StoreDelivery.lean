import RelayGate.Proofs.LedgerDelivery
import RelayGate.Proofs.StoreBook

/-!
# Deliveries in the store

What the gate guarantees over whole runs of transactions: whoever sends them, with whatever accounts
and through whichever gateways, each delivery is committed and settled at most once and in this order.
-/

namespace RelayGate

open Book (Entry Phase)

variable {scheme : AddressScheme} {store : Store}

namespace Store

/-- In every run that starts where the gate owns nothing, a key is committed at most once and settled at
most once, by whichever gateways, settled only after it was committed, and announced as settled at most
once. Addresses are to separate records at every bump, not only at those that are found. -/
theorem processed_at_most_once (hs : scheme.Separates) (hstart : store.Unowned) (ts : List Transaction)
    (key : MarkerKey) :
    (store.history scheme ts).count (.committed key) ≤ 1 ∧
      (store.history scheme ts).count (.settled key) ≤ 1 ∧
      (∀ before after, store.history scheme ts = before ++ .settled key :: after →
        .committed key ∈ before) ∧
      ((store.announced scheme ts).filterMap Event.phase?).count (.settled key) ≤ 1 := by
  obtain ⟨entries, hphases, hrun⟩ := book_after hs (Ordered.of_unowned hstart) ts
  have habsent : (store.book scheme).pending key = none := by
    have hnone : recordOf scheme store.slots (.marker key) = none := recordOf_of_unowned hstart _
    simp [book, Book.ofRecords, hnone]
  rw [phases_of_announced, ← hphases]
  refine ⟨Book.count_committed_le_one hrun key, Book.count_settled_le_one hrun habsent, ?_,
    Book.count_settled_le_one hrun habsent⟩
  intro before after hsplit
  exact Book.settled_after_committed hrun habsent hsplit

/-! ## A run -/

/-- The addresses that the host's scheme finds for some records, as numbers, with their bumps. -/
def exampleAddresses : List (RecordKey × UInt8 × Nat) :=
  [(.gateway 2, 254,
      12262842930866863523416125228150644580232718099639909230082936452543010721850),
    (.counter 43113, 253,
      97103676491006676389671442851113810358144757166232863801766948344792817265619),
    (.registry .via 43113, 255,
      51658483738037842965717246314852453655160052403320328445266929940523466456099),
    (.registry .chain 43113, 255,
      59802143237392083982118135549632367139221517999518037674720272716286503364706),
    (.registry .project 43113, 255,
      19030827177809086353927401570815838002538895184118749667274340858912008409688),
    (.marker { source := 43113, txId := 1 }, 253,
      98724561597090705651114811214961989790617991984480500596870954816560949431735)]

/-- The key of a number. -/
def keyOfNat (n : Nat) : Key := ⟨LittleEndian.encode 32 n, LittleEndian.length_encode 32 n⟩

/-- The scheme that knows these addresses and no other ones. -/
def exampleScheme : AddressScheme where
  derive seeds bump :=
    (exampleAddresses.find? fun e => e.1.seeds == seeds && e.2.1 == bump).map
      fun e => keyOfNat e.2.2

example : exampleAddresses.all fun e =>
    (AddressScheme.standard .gate).derive e.1.seeds e.2.1 == some (keyOfNat e.2.2) := by
  decide +kernel

theorem mem_of_derive_exampleScheme {seeds : Bytes} {bump : UInt8} {address : Key}
    (h : exampleScheme.derive seeds bump = some address) :
    ∃ e ∈ exampleAddresses, e.1.seeds = seeds ∧ keyOfNat e.2.2 = address := by
  obtain ⟨e, hfind, haddress⟩ := Option.map_eq_some_iff.1 h
  have hseeds := List.find?_some hfind
  simp only [Bool.and_eq_true, beq_iff_eq] at hseeds
  exact ⟨e, List.mem_of_find?_eq_some hfind, hseeds.1, haddress⟩

theorem exampleScheme_separates : exampleScheme.Separates := by
  intro key address bump hlocate key' bump' hderive
  obtain ⟨e, he, hseeds, haddress⟩ :=
    mem_of_derive_exampleScheme (AddressScheme.derive_of_locate hlocate)
  obtain ⟨e', he', hseeds', haddress'⟩ := mem_of_derive_exampleScheme hderive
  have hdistinct : ∀ e ∈ exampleAddresses, ∀ e' ∈ exampleAddresses,
      keyOfNat e.2.2 = keyOfNat e'.2.2 → e'.1 = e.1 := by
    decide +kernel
  have hsame := hdistinct e he e' he' (haddress.trans haddress'.symm)
  refine RecordKey.seeds_injective ?_
  rw [← hseeds, ← hseeds', hsame]

/-- The address of a record in the example. -/
def exampleAddress (key : RecordKey) : Key := ((exampleScheme.locate key).map Prod.fst).getD .system

/-- A store without records, in which the authority and the relayer can pay. -/
def exampleStore : Store :=
  ((genesis (.filled 32 9) (some (.filled 32 42))).put (.filled 32 42)
    { lamports := 10000000000 }).put (.filled 32 7) { lamports := 10000000000 }

/-- A transaction that makes one call. The accounts that sign pay, too. -/
def exampleTransaction (accounts : List (Key × Bool)) (call : Call) (before : List Instruction := []) :
    Transaction where
  before := before
  call :=
    { program := .gate
      accounts := accounts.map fun a => { key := a.1, signer := a.2, writable := true }
      data := call.encode }

/-- Sets up a gateway, a counter and two registries. -/
def exampleSetup : List Transaction :=
  let authority : Key := .filled 32 42
  let gateway := exampleAddress (.gateway 2)
  let registry (layer : Layer) (signer : Key) : Transaction :=
    exampleTransaction
      [(exampleAddress (.registry layer 43113), false), (gateway, false), (authority, true),
        (.system, false)]
      (.createRegistry layer 43113 [signer] 1)
  [exampleTransaction
      [(gateway, false), (authority, true), (.gate, false), (.filled 32 9, false), (.system, false)]
      (.createGateway 2),
    exampleTransaction
      [(exampleAddress (.counter 43113), false), (authority, true), (gateway, false),
        (.system, false)]
      (.createCounter 43113),
    registry .via (.filled 32 1), registry .chain (.filled 32 2)]

/-- The gateway that is set up. -/
def exampleGateway : Gateway :=
  { authority := .filled 32 42, chain := 2, enabled := true, bump := 254 }

def exampleRegistry (layer : Layer) (signer : Key) : Registry :=
  { layer, authority := .filled 32 42, signers := [signer], threshold := 1, chain := 43113,
    enabled := true, bump := 255 }

/-- The registries that are set up. -/
def exampleLayers : Layers :=
  { via := exampleRegistry .via (.filled 32 1), chain := exampleRegistry .chain (.filled 32 2),
    project := none }

/-- Commits the message of the example. -/
def exampleCommit : Transaction :=
  exampleTransaction
    [(exampleAddress (.gateway 2), false), (exampleAddress (.marker Ledger.exampleMessage.key), false),
      (exampleAddress (.counter 43113), false), (.filled 32 7, true), (.system, false)]
    (.commit Ledger.exampleMessage Ledger.exampleSignatures)

/-- Settles the message of the example, behind an instruction that has its signatures checked. -/
def exampleSettle : Transaction :=
  exampleTransaction
    [(exampleAddress (.gateway 2), false), (exampleAddress (.marker Ledger.exampleMessage.key), false),
      (exampleAddress (.registry .via 43113), false), (exampleAddress (.registry .chain 43113), false),
      (exampleAddress (.registry .project 43113), false), (.filled 32 7, true), (.instructions, false)]
    (.settle Ledger.exampleMessage Ledger.exampleSignatures)
    (Attestation.instruction? Ledger.exampleSignatures Ledger.exampleMessage.hash.bytes).toList

/-- The set-up, then both phases, and then both once more. -/
def exampleRun : List Transaction :=
  exampleSetup ++ [exampleCommit, exampleSettle, exampleCommit, exampleSettle]

theorem unowned_exampleStore : exampleStore.Unowned := by
  refine unowned_of_entries ?_
  decide +kernel

theorem processed_at_most_once_replayed :
    exampleScheme.Separates ∧ exampleStore.Unowned ∧
      exampleStore.history exampleScheme exampleRun =
        [.committed Ledger.exampleMessage.key, .settled Ledger.exampleMessage.key] ∧
      (exampleStore.history exampleScheme exampleRun).count (.settled Ledger.exampleMessage.key) ≤ 1 := by
  have hhistory : exampleStore.history exampleScheme exampleRun =
      [.committed Ledger.exampleMessage.key, .settled Ledger.exampleMessage.key] := by
    decide +kernel
  have honce := processed_at_most_once exampleScheme_separates unowned_exampleStore exampleRun
    Ledger.exampleMessage.key
  exact ⟨exampleScheme_separates, unowned_exampleStore, hhistory, honce.2.1⟩

end Store

end RelayGate
