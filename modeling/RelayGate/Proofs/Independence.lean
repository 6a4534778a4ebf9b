import RelayGate.Proofs.LedgerDelivery

/-!
# Independent phases

A phase of a delivery reads the gateway and the registries, and reads and writes the marker under its
message's key and, if it is a commit, the counter of its message's source chain. In two ledgers that
agree on this it answers the same, and they still agree afterwards (`Agree.step`); a phase that has its
own key and counter does not interfere (`Apart.agree`). So two phases that share neither run in either
order with the same answers and the same result (`phases_commute`).
-/

namespace RelayGate.Ledger

variable {l l' : Ledger} {a b : Step} {m : Message} {signatures : List Signature} {bump : UInt8}
  {verify : Verifier}

/-- Two ledgers agree on all that a phase reads. -/
structure Agree (s : Step) (l l' : Ledger) : Prop where
  gateway : l.gateway = l'.gateway
  layers : l.layers = l'.layers
  marker : ∀ key, s.key? = some key → l.markers.get? key = l'.markers.get? key
  counter : ∀ source, s.counts? = some source → l.counters.get? source = l'.counters.get? source

/-- Two phases with different keys, of which not both count on one source chain. -/
structure Apart (a b : Step) : Prop where
  phases : a.key?.isSome = true ∧ b.key?.isSome = true
  keys : a.key? ≠ b.key?
  chains : ∀ source, a.counts? = some source → b.counts? ≠ some source

theorem Apart.symm (h : Apart a b) : Apart b a :=
  ⟨⟨h.phases.2, h.phases.1⟩, h.keys.symm, fun source hb ha => h.chains source ha hb⟩

theorem Step.forces_of_key? (h : a.key?.isSome = true) : a.forces = false := by
  cases a with
  | putMarker key marker => cases h
  | _ => rfl

/-! ## What a phase reads -/

/-- A commit answers by the gateway, the marker under its key and the counter of its chain, and what it
leaves in these two places depends on nothing else. -/
theorem commit_congr (hgateway : l.gateway = l'.gateway)
    (hmarker : l.markers.get? m.key = l'.markers.get? m.key)
    (hcounter : l.counter m.source = l'.counter m.source) :
    (l.commit m signatures bump).2 = (l'.commit m signatures bump).2 ∧
      (l.commit m signatures bump).1.markers.get? m.key =
        (l'.commit m signatures bump).1.markers.get? m.key ∧
      (l.commit m signatures bump).1.counters.get? m.source =
        (l'.commit m signatures bump).1.counters.get? m.source := by
  have hanswer : (l.commit m signatures bump).2 = (l'.commit m signatures bump).2 := by
    unfold commit
    dsimp only
    rw [hgateway, hmarker, hcounter]
    split <;> rfl
  refine ⟨hanswer, ?_⟩
  cases hok : (l.commit m signatures bump).2.outcome.isOk with
  | true =>
    have hok' : (l'.commit m signatures bump).2.outcome.isOk = true := hanswer ▸ hok
    rw [(commit_of_isOk hok).2.2, (commit_of_isOk hok').2.2]
    simp [hcounter]
  | false =>
    have hok' : (l'.commit m signatures bump).2.outcome.isOk = false := hanswer ▸ hok
    rw [commit_of_not_isOk hok, commit_of_not_isOk hok']
    simp [hmarker, hcounter]

/-- A settlement answers by the gateway, the registries and the marker under its key. -/
theorem settle_congr (hgateway : l.gateway = l'.gateway) (hlayers : l.layers = l'.layers)
    (hmarker : l.markers.get? m.key = l'.markers.get? m.key) :
    (l.settle m signatures verify).2 = (l'.settle m signatures verify).2 ∧
      (l.settle m signatures verify).1.markers.get? m.key =
        (l'.settle m signatures verify).1.markers.get? m.key := by
  have hanswer : (l.settle m signatures verify).2 = (l'.settle m signatures verify).2 := by
    unfold settle
    dsimp only
    rw [hgateway, hlayers, hmarker]
    split <;> rfl
  refine ⟨hanswer, ?_⟩
  cases hok : (l.settle m signatures verify).2.outcome.isOk with
  | true =>
    have hok' : (l'.settle m signatures verify).2.outcome.isOk = true := hanswer ▸ hok
    obtain ⟨-, -, -, -, hstate⟩ := settle_of_isOk hok
    obtain ⟨-, -, -, -, hstate'⟩ := settle_of_isOk hok'
    rw [hstate, hstate']
    simp
  | false =>
    have hok' : (l'.settle m signatures verify).2.outcome.isOk = false := hanswer ▸ hok
    rw [settle_of_not_isOk hok, settle_of_not_isOk hok', hmarker]

/-- A phase writes neither the gateway nor the registries. -/
theorem configuration_step (h : a.key?.isSome = true) :
    (l.step a).1.gateway = l.gateway ∧ (l.step a).1.layers = l.layers := by
  have ht := l.transition_step a
  generalize (l.step a).1 = l' at ht ⊢
  cases ht with
  | committed hok => exact ⟨rfl, rfl⟩
  | opened hrefused => exact ⟨rfl, rfl⟩
  | settled hok => exact ⟨rfl, rfl⟩
  | unsettled hrefused => exact ⟨rfl, rfl⟩
  | configured hphase hmarkers hcounters =>
    rw [hphase] at h
    cases h
  | forced key marker => cases h

/-- In ledgers that agree on what a phase reads, the phase answers the same, and they agree on it
afterwards. -/
theorem Agree.step (hphase : a.key?.isSome = true) (h : Agree a l l') :
    (l.step a).2 = (l'.step a).2 ∧ Agree a (l.step a).1 (l'.step a).1 := by
  obtain ⟨hgateway, hlayers⟩ := configuration_step (l := l) hphase
  obtain ⟨hgateway', hlayers'⟩ := configuration_step (l := l') hphase
  have hgateways : (l.step a).1.gateway = (l'.step a).1.gateway := by
    rw [hgateway, hgateway', h.gateway]
  have hlayerses : (l.step a).1.layers = (l'.step a).1.layers := by
    rw [hlayers, hlayers', h.layers]
  cases a with
  | commit m signatures bump =>
    have hcounter : l.counter m.source = l'.counter m.source := by
      rw [Ledger.counter, Ledger.counter, h.counter m.source rfl]
    obtain ⟨hanswer, hmarker', hcounter'⟩ := commit_congr h.gateway (h.marker m.key rfl) hcounter
    refine ⟨hanswer, hgateways, hlayerses, ?_, ?_⟩
    · rintro _ ⟨⟩
      exact hmarker'
    · rintro _ ⟨⟩
      exact hcounter'
  | settle m signatures verify =>
    obtain ⟨hanswer, hmarker'⟩ := settle_congr h.gateway h.layers (h.marker m.key rfl)
    refine ⟨hanswer, hgateways, hlayerses, ?_, ?_⟩
    · rintro _ ⟨⟩
      exact hmarker'
    · rintro _ ⟨⟩
  | _ => cases hphase

/-! ## What a phase leaves alone -/

/-- A phase leaves alone what a phase apart from it reads. -/
theorem Apart.agree (h : Apart a b) (l : Ledger) : Agree a (l.step b).1 l := by
  obtain ⟨hgateway, hlayers⟩ := configuration_step (l := l) h.phases.2
  refine ⟨hgateway, hlayers, fun key hkey => ?_, fun source hsource => ?_⟩
  · exact markers_step_of_ne (Step.forces_of_key? h.phases.2) fun hb => h.keys (hkey.trans hb.symm)
  · exact counters_step_of_ne (h.chains source hsource)

theorem Apart.markers (h : Apart a b) (l : Ledger) :
    ((l.step a).1.step b).1.markers = ((l.step b).1.step a).1.markers := by
  have ha := Step.forces_of_key? h.phases.1
  have hb := Step.forces_of_key? h.phases.2
  refine Table.ext fun key => ?_
  by_cases hkey : a.key? = some key
  · -- only `a` writes here, and it writes the same before and after `b`
    have hbkey : b.key? ≠ some key := fun hb => h.keys (hkey.trans hb.symm)
    rw [markers_step_of_ne hb hbkey, (Agree.step h.phases.1 (h.agree l)).2.marker key hkey]
  · rw [markers_step_of_ne ha hkey]
    by_cases hbkey : b.key? = some key
    · exact (Agree.step h.phases.2 (h.symm.agree l)).2.marker key hbkey
    · rw [markers_step_of_ne hb hbkey, markers_step_of_ne ha hkey, markers_step_of_ne hb hbkey]

theorem Apart.counters (h : Apart a b) (l : Ledger) :
    ((l.step a).1.step b).1.counters = ((l.step b).1.step a).1.counters := by
  refine Table.ext fun source => ?_
  by_cases hsource : a.counts? = some source
  · have hbsource := h.chains source hsource
    rw [counters_step_of_ne hbsource, (Agree.step h.phases.1 (h.agree l)).2.counter source hsource]
  · rw [counters_step_of_ne hsource]
    by_cases hbsource : b.counts? = some source
    · exact (Agree.step h.phases.2 (h.symm.agree l)).2.counter source hbsource
    · rw [counters_step_of_ne hbsource, counters_step_of_ne hsource, counters_step_of_ne hbsource]

/-! ## Either order -/

theorem eq_of_parts (hgateway : l.gateway = l'.gateway) (hlayers : l.layers = l'.layers)
    (hmarkers : l.markers = l'.markers) (hcounters : l.counters = l'.counters) : l = l' := by
  obtain ⟨hvia, hchain, hproject⟩ := Layers.mk.inj hlayers
  cases l
  cases l'
  simp_all only

/-- Two phases with different keys, not both commits from one source chain, may be run in either order:
each answers the same as it would first, and the ledger is the same after both. -/
theorem phases_commute (h : Apart a b) (l : Ledger) :
    ((l.step b).1.step a).2 = (l.step a).2 ∧ ((l.step a).1.step b).2 = (l.step b).2 ∧
      ((l.step a).1.step b).1 = ((l.step b).1.step a).1 := by
  obtain ⟨hanswer, -⟩ := Agree.step h.phases.1 (h.agree l)
  obtain ⟨hanswer', -⟩ := Agree.step h.phases.2 (h.symm.agree l)
  refine ⟨hanswer, hanswer', eq_of_parts ?_ ?_ (h.markers l) (h.counters l)⟩
  · rw [(configuration_step h.phases.2).1, (configuration_step h.phases.1).1,
      (configuration_step h.phases.1).1, (configuration_step h.phases.2).1]
  · rw [(configuration_step h.phases.2).2, (configuration_step h.phases.1).2,
      (configuration_step h.phases.1).2, (configuration_step h.phases.2).2]

/-- The settlement of one message and the commit of the next one from its chain. -/
theorem phases_commute_after_trials :
    let l := (exampleLedger.run exampleTrials).1
    let settle : Step := .settle exampleMessage exampleSignatures fun _ _ => true
    let next : Step := .commit { exampleMessage with txId := 2 } exampleSignatures 255
    Apart settle next ∧ (l.step settle).2.outcome.isOk = true ∧ (l.step next).2.outcome.isOk = true ∧
      ((l.step next).1.step settle).2 = (l.step settle).2 ∧
      ((l.step settle).1.step next).2 = (l.step next).2 ∧
      ((l.step settle).1.step next).1 = ((l.step next).1.step settle).1 := by
  intro l settle next
  have hapart : Apart settle next := ⟨⟨rfl, rfl⟩, by decide, nofun⟩
  exact ⟨hapart, by decide +kernel, by decide +kernel, phases_commute hapart l⟩

-- two commits from one chain go through in the order of their ids only
example :
    let first : Step := .commit exampleMessage exampleSignatures 255
    let next : Step := .commit { exampleMessage with txId := 2 } exampleSignatures 255
    (exampleLedger.run [first, next]).2.map (·.outcome.isOk) = [true, true] ∧
      (exampleLedger.run [next, first]).2.map (·.outcome.isOk) = [true, false] := by
  decide +kernel

end RelayGate.Ledger
