import RelayGate.Proofs.Approval
import RelayGate.Proofs.AttestationReading
import RelayGate.Proofs.ShownInstructions
import RelayGate.Proofs.StoreDelivery

/-!
# What a settlement in the store rests on

In every store that transactions lead to, a message is settled only on behalf of its own layers: the
records that decide are those that are found for the message, whatever accounts the caller names, and
the signatures that count are attested by instructions in front of the call.
-/

namespace RelayGate

variable {scheme : AddressScheme} {store : Store} {t : Transaction} {m : Message}
  {signatures : List Signature} {key : RecordKey} {address : Key} {r : StoredRecord}

/-- A registry stands behind a digest: it is one of the layer for the chain, it is the authority's and
takes part, and different keys that it lists, as many as its threshold, have a submitted signature over
exactly this digest that some instruction attests. -/
structure Registry.Endorses (r : Registry) (layer : Layer) (chain : UInt64) (authority : Key)
    (digest : Digest) (signatures : List Signature) (instructions : List Instruction) : Prop where
  configured : Layers.Configured layer chain authority r
  enabled : r.enabled = true
  quorum : ∃ keys : List Key, keys.Nodup ∧ r.threshold.toNat ≤ keys.length ∧
    ∀ key ∈ keys, key ∈ r.signers ∧ ∃ s ∈ signatures, s.signer = key ∧
      ∃ i ∈ instructions,
        Attestation.Attests i { signer := key, signature := s.bytes, message := digest.bytes }

theorem Registry.endorses_of_hasQuorum {r : Registry} {layer : Layer} {chain : UInt64} {authority : Key}
    {digest : Digest} {instructions : List Instruction}
    (hconfigured : Layers.Configured layer chain authority r) (henabled : r.enabled = true)
    (hquorum : r.HasQuorum digest
      (Attestation.verifier (Attestation.ofInstructions instructions)) signatures) :
    r.Endorses layer chain authority digest signatures instructions := by
  obtain ⟨keys, hnodup, hlength, hkeys⟩ := hquorum
  refine ⟨hconfigured, henabled, keys, hnodup, hlength, ?_⟩
  intro key hkey
  obtain ⟨hrecognized, s, hs, rfl, hvalid⟩ := hkeys key hkey
  have hlisted : s.signer ∈ r.signers := by
    simpa [recognizes, henabled] using hrecognized
  exact ⟨hlisted, s, hs, rfl, Attestation.verifier_eq_true.1 hvalid⟩

/-- A registry that is configured for a layer and a chain says that it is about them. -/
theorem Layers.Configured.key_eq {layer : Layer} {chain : UInt64} {authority : Key} {r : Registry}
    (h : Layers.Configured layer chain authority r) :
    (StoredRecord.registry r).key = .registry layer chain := by
  rw [StoredRecord.key, h.layer_eq, h.chain_eq]

/-- The records that let a message be settled: the marker of the message has its digest, and the Via and
Chain registries of its source chain, and the Project registry there if it takes part, stand behind this
digest and belong to the authority of the gateway of its destination. -/
structure Justifies (records : RecordKey → Option StoredRecord) (m : Message)
    (signatures : List Signature) (instructions : List Instruction) (marker : Marker)
    (gateway : Gateway) (via chain : Registry) : Prop where
  marker_found : records (.marker m.key) = some (.marker marker)
  source_eq : marker.source = m.source
  txId_eq : marker.txId = m.txId
  digest_eq : m.digest.outcome = .ok marker.digest
  gateway_found : records (.gateway m.destination) = some (.gateway gateway)
  destination_eq : gateway.chain = m.destination
  via_found : records (.registry .via m.source) = some (.registry via)
  via_endorses : via.Endorses .via m.source gateway.authority marker.digest signatures instructions
  chain_found : records (.registry .chain m.source) = some (.registry chain)
  chain_endorses : chain.Endorses .chain m.source gateway.authority marker.digest signatures instructions
  project_endorses : ∀ project, records (.registry .project m.source) = some (.registry project) →
    project.enabled = true →
      project.Endorses .project m.source gateway.authority marker.digest signatures instructions

/-- A settlement that succeeds where records are in order is justified by the records that are found for
its message: the caller has no choice of them. -/
theorem Program.settle_justified {inv : Invocation} {out : Outcome} (hprogram : inv.program = .gate)
    (ho : Ordered scheme store.slots) (h : (settle scheme inv store m signatures).outcome = .ok out) :
    ∃ marker gateway via chain preceding,
      Justifies (recordOf scheme store.slots) m signatures preceding marker gateway via chain ∧
        Instruction.readPreceding (store.account .instructions).data = .ok preceding := by
  obtain ⟨a, layers, preceding, marker, tally, ha, hinputs, hs, hslot, -, -⟩ := settle_ok hprogram h
  obtain ⟨markerBump, hmarker⟩ := ha.marker
  obtain ⟨gatewayAddress, hgateway⟩ := ha.gateway
  obtain ⟨viaAddress, hvia⟩ := ha.via
  obtain ⟨chainAddress, hchain⟩ := ha.chain
  obtain ⟨projectBump, hproject⟩ := ha.project
  obtain ⟨⟨hviaEnabled, hviaQuorum⟩, ⟨hchainEnabled, hchainQuorum⟩, hprojectQuorum⟩ :=
    Layers.hasQuorum_of_validate hs.approved
  rw [← hs.digest_eq] at hviaQuorum hchainQuorum hprojectQuorum
  rw [← hs.destination] at hgateway
  rw [← hinputs.via] at hvia
  rw [← hinputs.chain] at hchain
  have hlocated : scheme.locate (.registry .project m.source) =
    some (a.projectAddress, projectBump) := hproject
  refine ⟨marker, a.gateway, layers.via, layers.chain, preceding, ?_, hinputs.preceding⟩
  exact
    { marker_found := by rw [recordOf_eq hmarker, hslot]; rfl
      source_eq := hs.source_eq
      txId_eq := hs.txId_eq
      digest_eq := Message.outcome_digest_eq_ok.2 ⟨hs.limits, hs.digest_eq.symm⟩
      gateway_found := hgateway.recordOf_eq ho (congrArg RecordKey.gateway hs.destination.symm)
      destination_eq := hs.destination.symm
      via_found := hvia.recordOf_eq ho hs.via.key_eq
      via_endorses := Registry.endorses_of_hasQuorum hs.via hviaEnabled hviaQuorum
      chain_found := hchain.recordOf_eq ho hs.chain.key_eq
      chain_endorses := Registry.endorses_of_hasQuorum hs.chain hchainEnabled hchainQuorum
      project_endorses := by
        intro project hfound henabled
        rw [recordOf_eq hlocated, hinputs.project] at hfound
        obtain ⟨project', hlayer, heq⟩ := Option.map_eq_some_iff.1 hfound
        obtain rfl : project' = project := StoredRecord.registry.inj heq
        exact Registry.endorses_of_hasQuorum (hs.project project' hlayer) henabled
          (hprojectQuorum project' hlayer henabled) }

/-- What is read in front of a call is what stands in front of it in its transaction, unless the host
shows something else or the list is too long for the places in it. -/
theorem Transaction.readPreceding_sysvarData {preceding : List Instruction}
    (h : Instruction.readPreceding t.sysvarData = .ok preceding) (hshown : t.shown = none)
    (hsize : (Instruction.encodeList t.instructions t.before.length).length < UInt16.size) :
    preceding = t.before := by
  have hcurrent : t.before.length ≤ t.instructions.length := by
    rw [instructions, List.length_append]
    omega
  have hread := Instruction.readPreceding_encodeList hsize hcurrent
  rw [sysvarData, hshown, Option.getD_none, hread, Except.ok.injEq] at h
  rw [← h, instructions, List.take_left]

namespace Store

/-- In every store that transactions lead to, a settlement succeeds only if the records that are found
for its message justify it, whatever accounts it is given. The attesting instructions are those that are
read in front of the call, and these are the ones of its transaction as the host shows them. -/
theorem settled_is_approved (hreach : Reachable scheme store)
    (hcall : Call.ofData? t.call.data = some (.settle m signatures))
    (hok : (t.execute scheme store).outcome.isOk = true) :
    ∃ marker gateway via chain preceding,
      Justifies (recordOf scheme store.slots) m signatures preceding marker gateway via chain ∧
        Instruction.readPreceding t.sysvarData = .ok preceding ∧
        (t.shown = none →
          (Instruction.encodeList t.instructions t.before.length).length < UInt16.size →
            preceding = t.before) := by
  obtain ⟨out, hout⟩ := isOk_eq_true.1 hok
  obtain ⟨hprogram, call, hcall', hrun⟩ := Program.enter_eq_ok.1 hout
  obtain rfl := Option.some.inj (hcall.symm.trans hcall')
  obtain ⟨marker, gateway, via, chain, preceding, hjustifies, hread⟩ :=
    Program.settle_justified hprogram (t.ordered_expose hreach.ordered) hrun
  rw [recordOf_expose hreach.ordered] at hjustifies
  rw [Transaction.expose, account_put_self] at hread
  exact ⟨marker, gateway, via, chain, preceding, hjustifies, hread,
    Transaction.readPreceding_sysvarData hread⟩

/-- The store of the example when its message is committed. -/
def exampleCommitted : Store := exampleStore.after exampleScheme (exampleSetup ++ [exampleCommit])

theorem settled_is_approved_behind_checks :
    Reachable exampleScheme exampleCommitted ∧
      Call.ofData? exampleSettle.call.data =
        some (.settle Ledger.exampleMessage Ledger.exampleSignatures) ∧
      (exampleSettle.execute exampleScheme exampleCommitted).outcome.isOk = true ∧
      ∃ marker gateway via chain,
        Justifies (recordOf exampleScheme exampleCommitted.slots) Ledger.exampleMessage
          Ledger.exampleSignatures exampleSettle.before marker gateway via chain := by
  have hreach : Reachable exampleScheme exampleCommitted :=
    (Reachable.start unowned_exampleStore).after _
  have hcall : Call.ofData? exampleSettle.call.data =
      some (.settle Ledger.exampleMessage Ledger.exampleSignatures) := by
    decide +kernel
  have hok : (exampleSettle.execute exampleScheme exampleCommitted).outcome.isOk = true := by
    decide +kernel
  have hsize : (Instruction.encodeList exampleSettle.instructions
      exampleSettle.before.length).length < UInt16.size := by
    decide +kernel
  obtain ⟨marker, gateway, via, chain, preceding, hjustifies, -, hbefore⟩ :=
    settled_is_approved hreach hcall hok
  obtain rfl := hbefore rfl hsize
  exact ⟨hreach, hcall, hok, marker, gateway, via, chain, hjustifies⟩

end Store

end RelayGate
