import RelayGate.Delivery

/-!
# What a successful phase has checked

Each check of a delivery, and each phase as a whole, succeeds exactly under a condition on its
arguments. The log plays no part in it, so the statements are about outcomes.
-/

namespace RelayGate

/-! ## Messages and signatures -/

namespace Message

/-- The byte fields of a message are within their limits. -/
structure WithinLimits (m : Message) : Prop where
  sender : m.sender.length ≤ maxSender
  recipient : m.recipient.length ≤ maxRecipient
  onChainData : m.onChainData.length ≤ maxOnChainData
  offChainData : m.offChainData.length ≤ maxOffChainData

theorem checkSizes_eq_ok {m : Message} {u : Unit} : m.checkSizes = .ok u ↔ m.WithinLimits := by
  simp only [checkSizes, except_bind_eq_ok, ensure_eq_ok, exists_unit_and]
  constructor
  · rintro ⟨h1, h2, h3, h4⟩
    exact ⟨h1, h2, h3, h4⟩
  · intro h
    exact ⟨h.sender, h.recipient, h.onChainData, h.offChainData⟩

theorem outcome_digest_eq_ok {m : Message} {d : Digest} :
    m.digest.outcome = .ok d ↔ m.WithinLimits ∧ m.hash = d := by
  simp [digest, Traced.outcome_bind_eq_ok, checkSizes_eq_ok]

end Message

theorem checkDigest_eq_ok {d : Digest} {u : Unit} : checkDigest d = .ok u ↔ d.isZero = false := by
  simp [checkDigest]

theorem Signature.checkCount_eq_ok {signatures : List Signature} {u : Unit} :
    checkCount signatures = .ok u ↔
      minPerMessage ≤ signatures.length ∧ signatures.length ≤ maxPerMessage := by
  simp [checkCount, except_bind_eq_ok]

/-! ## Gateways, counters and markers -/

theorem Gateway.checkEnabled_eq_ok {g : Gateway} {u : Unit} :
    g.checkEnabled = .ok u ↔ g.enabled = true := by
  simp [checkEnabled]

theorem Gateway.checkDestination_eq_ok {g : Gateway} {destination : UInt64} {u : Unit} :
    g.checkDestination destination = .ok u ↔ destination = g.chain := by
  simp [checkDestination]

namespace Counter

theorem outcome_checkFresh_eq_ok {c : Counter} {txId : TxId} {u : Unit} :
    (c.checkFresh txId).outcome = .ok u ↔ c.highest < txId := by
  unfold checkFresh
  split
  · next h => simpa [Traced.outcome_bind_eq_ok] using h
  · next h => simpa using h

theorem outcome_advance_eq_ok {c c' : Counter} {txId : TxId} :
    (c.advance txId).outcome = .ok c' ↔ c.highest < txId ∧ { c with highest := txId } = c' := by
  simp [advance, Traced.outcome_bind_eq_ok, outcome_checkFresh_eq_ok]

end Counter

theorem Marker.outcome_checkMatches_eq_ok {marker : Marker} {txId : TxId} {source : UInt64}
    {d : Digest} {u : Unit} :
    (marker.checkMatches txId source d).outcome = .ok u ↔
      marker.txId = txId ∧ marker.source = source ∧ marker.digest = d := by
  unfold checkMatches
  simp only [Traced.outcome_bind_eq_ok, Traced.outcome_lift, ensure_eq_ok, exists_unit_and, and_assoc]
  split
  · next h => simp [Traced.outcome_bind_eq_ok, h]
  · next h => simpa using fun _ _ => Decidable.not_not.mp h

/-! ## Registries -/

namespace Layers

/-- The registry is one of the layer for the chain, and the authority's. -/
structure Configured (layer : Layer) (chain : UInt64) (authority : Key) (r : Registry) : Prop where
  layer_eq : r.layer = layer
  chain_eq : r.chain = chain
  authority_eq : r.authority = authority

theorem outcome_checkRegistry_eq_ok {layer : Layer} {chain : UInt64} {authority : Key} {r : Registry}
    {u : Unit} :
    (checkRegistry layer chain authority r).outcome = .ok u ↔
      Configured layer chain authority r := by
  unfold checkRegistry
  simp only [Traced.outcome_bind_eq_ok, Traced.outcome_lift, ensure_eq_ok, exists_unit_and]
  constructor
  · rintro ⟨⟨hlayer, hchain⟩, h⟩
    split at h
    · simp [Traced.outcome_bind_eq_ok] at h
    · next hauthority => exact ⟨hlayer, hchain, Decidable.not_not.mp hauthority⟩
  · rintro ⟨hlayer, hchain, hauthority⟩
    refine ⟨⟨hlayer, hchain⟩, ?_⟩
    rw [if_neg (Decidable.not_not.mpr hauthority)]
    rfl

theorem outcome_checkConfigured_eq_ok {l : Layers} {chain : UInt64} {authority : Key} {u : Unit} :
    (l.checkConfigured chain authority).outcome = .ok u ↔
      Configured .via chain authority l.via ∧ Configured .chain chain authority l.chain ∧
        ∀ project, l.project = some project → Configured .project chain authority project := by
  unfold checkConfigured
  simp only [Traced.outcome_bind_eq_ok, outcome_checkRegistry_eq_ok, exists_unit_and]
  cases l.project with
  | none => simp
  | some project => simp [outcome_checkRegistry_eq_ok]

end Layers

/-! ## The phases -/

namespace Delivery

/-- What lets a message be committed: the gateway is open and serves its destination, nothing is
pending under its key, its transaction id is fresh, and it has as many signatures as it may have. -/
structure Committable (pending : Option Marker) (gateway : Gateway) (counter : Counter) (m : Message)
    (signatures : List Signature) : Prop where
  enabled : gateway.enabled = true
  destination : m.destination = gateway.chain
  absent : pending = none
  fresh : counter.highest < m.txId
  enough : Signature.minPerMessage ≤ signatures.length
  bounded : signatures.length ≤ Signature.maxPerMessage
  limits : m.WithinLimits

/-- The marker of a message. -/
def markerOf (m : Message) (bump : UInt8) : Marker :=
  { txId := m.txId, source := m.source, digest := m.hash, bump }

theorem outcome_commit_eq_ok {pending : Option Marker} {gateway : Gateway} {counter : Counter}
    {m : Message} {signatures : List Signature} {bump : UInt8} {marker : Marker} :
    (commit pending gateway counter m signatures bump).outcome = .ok marker ↔
      Committable pending gateway counter m signatures ∧ markerOf m bump = marker := by
  unfold commit
  simp only [Traced.outcome_bind_eq_ok, Traced.outcome_lift, Gateway.checkEnabled_eq_ok,
    Gateway.checkDestination_eq_ok, exists_unit_and]
  cases pending with
  | some other =>
    constructor
    · rintro ⟨-, -, h⟩
      simp [Traced.outcome_bind_eq_ok] at h
    · rintro ⟨h, -⟩
      exact absurd h.absent (by simp)
  | none =>
    simp only [Option.isSome_none, Bool.false_eq_true, if_false, Traced.outcome_bind_eq_ok,
      Traced.outcome_lift, Traced.outcome_pure, Counter.outcome_checkFresh_eq_ok,
      Signature.checkCount_eq_ok, Message.outcome_digest_eq_ok, exists_unit_and, Except.ok.injEq]
    constructor
    · rintro ⟨henabled, hdestination, hfresh, ⟨henough, hbounded⟩, d, ⟨hlimits, rfl⟩, rfl⟩
      exact ⟨⟨henabled, hdestination, rfl, hfresh, henough, hbounded, hlimits⟩, rfl⟩
    · rintro ⟨h, rfl⟩
      exact ⟨h.enabled, h.destination, h.fresh, ⟨h.enough, h.bounded⟩, m.hash, ⟨h.limits, rfl⟩, rfl⟩

theorem outcome_expectPending_eq_ok {pending : Option Marker} {m : Message} {marker : Marker} :
    (expectPending pending m).outcome = .ok marker ↔ pending = some marker := by
  cases pending <;> simp [expectPending, Traced.outcome_bind_eq_ok]

/-- What lets a message be settled: the gateway is open and serves its destination, the registries
are those of its source chain and of the gateway's authority, the message that is pending under its
key is the same one, and the layers approve its digest. -/
structure Settleable (pending : Option Marker) (gateway : Gateway) (m : Message)
    (signatures : List Signature) (layers : Layers) (verify : Verifier) (marker : Marker)
    (tally : Tally) : Prop where
  enabled : gateway.enabled = true
  destination : m.destination = gateway.chain
  present : pending = some marker
  via : Layers.Configured .via m.source gateway.authority layers.via
  chain : Layers.Configured .chain m.source gateway.authority layers.chain
  project : ∀ project, layers.project = some project →
    Layers.Configured .project m.source gateway.authority project
  limits : m.WithinLimits
  txId_eq : marker.txId = m.txId
  source_eq : marker.source = m.source
  digest_eq : marker.digest = m.hash
  approved : (layers.validate signatures m.hash verify).outcome = .ok tally

theorem outcome_settle_eq_ok {pending : Option Marker} {gateway : Gateway} {m : Message}
    {signatures : List Signature} {layers : Layers} {verify : Verifier} {settlement : Settlement} :
    (settle pending gateway m signatures layers verify).outcome = .ok settlement ↔
      settlement.digest = m.hash ∧
        ∃ marker, Settleable pending gateway m signatures layers verify marker settlement.tally := by
  unfold settle
  simp only [Traced.outcome_bind_eq_ok, Traced.outcome_lift, Traced.outcome_pure,
    Gateway.checkEnabled_eq_ok, Gateway.checkDestination_eq_ok, outcome_expectPending_eq_ok,
    Layers.outcome_checkConfigured_eq_ok, Message.outcome_digest_eq_ok,
    Marker.outcome_checkMatches_eq_ok, exists_unit_and, Except.ok.injEq]
  constructor
  · rintro ⟨henabled, hdestination, marker, hpresent, ⟨hvia, hchain, hproject⟩, d, ⟨hlimits, rfl⟩,
      ⟨htxId, hsource, hdigest⟩, tally, happroved, rfl⟩
    exact ⟨rfl, marker, henabled, hdestination, hpresent, hvia, hchain, hproject, hlimits, htxId,
      hsource, hdigest, happroved⟩
  · rintro ⟨hd, marker, h⟩
    refine ⟨h.enabled, h.destination, marker, h.present, ⟨h.via, h.chain, h.project⟩, m.hash,
      ⟨h.limits, rfl⟩, ⟨h.txId_eq, h.source_eq, h.digest_eq⟩, settlement.tally, h.approved, ?_⟩
    rw [← hd]

end Delivery

end RelayGate
