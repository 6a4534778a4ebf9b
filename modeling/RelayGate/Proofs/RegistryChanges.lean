import Mathlib.Data.List.Nodup
import RelayGate.Check
import RelayGate.Registry

/-!
# Changes of registries

Each change of a registry succeeds exactly under a condition on its arguments and touches the fields
that it is about; a change that is refused has written nothing (`Change.atomic_edit`). So a registry
keeps its address and its authority however it is changed, and its list of signers stays short. Every
registry that is made is well formed, and stays so under each change (`WellFormed.of_apply`), though no
change checks everything: what a change does not check, it does not break.
-/

namespace RelayGate.Registry

variable {r r' : Registry} {layer : Layer} {chain : UInt64} {authority signer : Key}
  {signers : List Key} {threshold bump : UInt8} {enabled : Bool} {change : Change} {u : Unit}

theorem checkSigners_eq_ok :
    checkSigners signers = .ok u ↔
      signers ≠ [] ∧ signers.length ≤ maxSigners ∧ hasRepeat signers = false := by
  simp only [checkSigners, except_bind_eq_ok, ensure_eq_ok, exists_unit_and]

theorem checkThreshold_eq_ok :
    checkThreshold layer signers threshold enabled = .ok u ↔
      threshold.toNat ≤ signers.length ∧
        (minThreshold ≤ threshold ∨ layer = .project ∧ enabled = false) := by
  simp only [checkThreshold, except_bind_eq_ok, ensure_eq_ok, exists_unit_and]

theorem create_eq_ok :
    create layer chain authority signers threshold bump = .ok r ↔
      (signers ≠ [] ∧ signers.length ≤ maxSigners ∧ hasRepeat signers = false) ∧
        (threshold.toNat ≤ signers.length ∧
          (minThreshold ≤ threshold ∨ layer = .project ∧ true = false)) ∧
        { layer, authority, signers, threshold, chain, enabled := true, bump } = r := by
  simp only [create, except_bind_eq_ok, checkSigners_eq_ok, checkThreshold_eq_ok, except_pure_eq_ok,
    exists_unit_and]

/-! ## Edits -/

namespace Edit

variable {α β : Type} {check : Except GateError α} {next : α → Edit β} {f g : Registry → Registry} {b : β}

theorem perform_get_bind {next : Registry → Edit β} : (get >>= next).perform r = (next r).perform r := rfl

theorem perform_modify : (modify f : Edit Unit).perform r = (.ok (), f r) := rfl

theorem perform_modify_bind :
    (modify f >>= fun _ => modify g : Edit Unit).perform r = (.ok (), g (f r)) := rfl

theorem perform_check_bind_eq_ok :
    ((liftM check : Edit α) >>= next).perform r = (.ok b, r') ↔
      ∃ a, check = .ok a ∧ (next a).perform r = (.ok b, r') := by
  cases check with
  | ok a => exact ⟨fun h => ⟨a, rfl, h⟩, fun ⟨_, rfl, h⟩ => h⟩
  | error e =>
    refine ⟨fun h => ?_, fun ⟨_, h, _⟩ => nomatch h⟩
    cases congrArg Prod.fst h

/-- An edit that fails leaves the registry as it found it. -/
def Atomic (edit : Edit α) : Prop :=
  ∀ r e r', edit.perform r = (.error e, r') → r' = r

theorem atomic_get_bind {next : Registry → Edit β} (hnext : ∀ r, Atomic (next r)) :
    Atomic (get >>= next) :=
  fun r => hnext r r

/-- A check writes nothing, so it may stand in front of anything that is atomic. -/
theorem atomic_check_bind (hnext : ∀ a, Atomic (next a)) : Atomic ((liftM check : Edit α) >>= next) := by
  intro r e r' h
  cases check with
  | ok a => exact hnext a r e r' h
  | error e => exact (congrArg Prod.snd h).symm

theorem atomic_modify : Atomic (modify f) := by
  intro r e r' h
  rw [perform_modify] at h
  cases h

theorem atomic_modify_bind : Atomic (modify f >>= fun _ => modify g) := by
  intro r e r' h
  rw [perform_modify_bind] at h
  cases h

end Edit

/-- Every change makes its checks before it writes. -/
theorem Change.atomic_edit (change : Change) : Edit.Atomic change.edit := by
  cases change with
  | replaceSigners signers threshold =>
    refine Edit.atomic_check_bind fun _ => ?_
    refine Edit.atomic_get_bind fun r => ?_
    exact Edit.atomic_check_bind fun _ => Edit.atomic_modify_bind
  | addSigner signer =>
    refine Edit.atomic_get_bind fun r => ?_
    refine Edit.atomic_check_bind fun _ => ?_
    exact Edit.atomic_check_bind fun _ => Edit.atomic_modify
  | removeSigner signer =>
    refine Edit.atomic_get_bind fun r => ?_
    refine Edit.atomic_check_bind fun _ => ?_
    exact Edit.atomic_check_bind fun _ => Edit.atomic_modify
  | setThreshold threshold =>
    refine Edit.atomic_get_bind fun r => ?_
    exact Edit.atomic_check_bind fun _ => Edit.atomic_modify
  | setEnabled enabled =>
    refine Edit.atomic_get_bind fun r => ?_
    exact Edit.atomic_check_bind fun _ => Edit.atomic_modify

theorem apply_eq_ok : r.apply change = .ok r' ↔ change.edit.perform r = (.ok (), r') := by
  rw [apply]
  generalize change.edit.perform r = performed
  obtain ⟨result, changed⟩ := performed
  cases result with
  | ok =>
    change Except.ok changed = Except.ok r' ↔ _
    rw [Except.ok.injEq, Prod.mk.injEq, and_iff_right rfl]
  | error e =>
    refine ⟨fun h => (nomatch h), fun h => ?_⟩
    cases congrArg Prod.fst h

theorem apply_eq_error {e : GateError} :
    r.apply change = .error e ↔ change.edit.perform r = (.error e, r) := by
  have hatomic := change.atomic_edit r
  rw [apply]
  generalize change.edit.perform r = performed at hatomic ⊢
  obtain ⟨result, changed⟩ := performed
  cases result with
  | ok =>
    refine ⟨fun h => (nomatch h), fun h => ?_⟩
    cases congrArg Prod.fst h
  | error e' =>
    obtain rfl := hatomic e' changed rfl
    change Except.error e' = Except.error e ↔ _
    rw [Except.error.injEq, Prod.mk.injEq, Except.error.injEq, and_iff_left rfl]

/-! ## Accepted changes -/

theorem replaceSigners_eq_ok :
    r.apply (.replaceSigners signers threshold) = .ok r' ↔
      (signers ≠ [] ∧ signers.length ≤ maxSigners ∧ hasRepeat signers = false) ∧
        (threshold.toNat ≤ signers.length ∧
          (minThreshold ≤ threshold ∨ r.layer = .project ∧ r.enabled = false)) ∧
        { r with signers, threshold } = r' := by
  simp only [apply_eq_ok, Change.edit, replaceSigners, Edit.perform_check_bind_eq_ok,
    Edit.perform_get_bind, Edit.perform_modify_bind, checkSigners_eq_ok, checkThreshold_eq_ok,
    exists_unit_and, Prod.mk.injEq, true_and]

theorem addSigner_eq_ok :
    r.apply (.addSigner signer) = .ok r' ↔
      signer ∉ r.signers ∧ r.signers.length < maxSigners ∧
        { r with signers := r.signers ++ [signer] } = r' := by
  simp only [apply_eq_ok, Change.edit, addSigner, Edit.perform_check_bind_eq_ok,
    Edit.perform_get_bind, Edit.perform_modify, ensure_eq_ok, exists_unit_and, Prod.mk.injEq, true_and]

theorem removeSigner_eq_ok :
    r.apply (.removeSigner signer) = .ok r' ↔
      signer ∈ r.signers ∧
        (r.threshold.toNat ≤ (r.signers.erase signer).length ∧
          (minThreshold ≤ r.threshold ∨ r.layer = .project ∧ r.enabled = false)) ∧
        { r with signers := r.signers.erase signer } = r' := by
  simp only [apply_eq_ok, Change.edit, removeSigner, Edit.perform_check_bind_eq_ok,
    Edit.perform_get_bind, Edit.perform_modify, ensure_eq_ok, checkThreshold_eq_ok, exists_unit_and,
    Prod.mk.injEq, true_and]

theorem setThreshold_eq_ok :
    r.apply (.setThreshold threshold) = .ok r' ↔
      (threshold.toNat ≤ r.signers.length ∧
          (minThreshold ≤ threshold ∨ r.layer = .project ∧ r.enabled = false)) ∧
        { r with threshold } = r' := by
  simp only [apply_eq_ok, Change.edit, setThreshold, Edit.perform_check_bind_eq_ok,
    Edit.perform_get_bind, Edit.perform_modify, checkThreshold_eq_ok, exists_unit_and, Prod.mk.injEq,
    true_and]

theorem setEnabled_eq_ok :
    r.apply (.setEnabled enabled) = .ok r' ↔
      (r.threshold.toNat ≤ r.signers.length ∧
          (minThreshold ≤ r.threshold ∨ r.layer = .project ∧ enabled = false)) ∧
        { r with enabled } = r' := by
  simp only [apply_eq_ok, Change.edit, setEnabled, Edit.perform_check_bind_eq_ok,
    Edit.perform_get_bind, Edit.perform_modify, checkThreshold_eq_ok, exists_unit_and, Prod.mk.injEq,
    true_and]

/-- What no change of a registry touches. -/
structure SameOffice (r r' : Registry) : Prop where
  layer_eq : r'.layer = r.layer
  chain_eq : r'.chain = r.chain
  authority_eq : r'.authority = r.authority
  bump_eq : r'.bump = r.bump

theorem SameOffice.refl (r : Registry) : r.SameOffice r := ⟨rfl, rfl, rfl, rfl⟩

theorem SameOffice.trans {r'' : Registry} (h : r.SameOffice r') (h' : r'.SameOffice r'') :
    r.SameOffice r'' where
  layer_eq := h'.layer_eq.trans h.layer_eq
  chain_eq := h'.chain_eq.trans h.chain_eq
  authority_eq := h'.authority_eq.trans h.authority_eq
  bump_eq := h'.bump_eq.trans h.bump_eq

theorem sameOffice_of_apply (h : r.apply change = .ok r') : r.SameOffice r' := by
  cases change with
  | replaceSigners signers threshold =>
    obtain ⟨-, -, rfl⟩ := replaceSigners_eq_ok.1 h
    exact ⟨rfl, rfl, rfl, rfl⟩
  | addSigner signer =>
    obtain ⟨-, -, rfl⟩ := addSigner_eq_ok.1 h
    exact ⟨rfl, rfl, rfl, rfl⟩
  | removeSigner signer =>
    obtain ⟨-, -, rfl⟩ := removeSigner_eq_ok.1 h
    exact ⟨rfl, rfl, rfl, rfl⟩
  | setThreshold threshold =>
    obtain ⟨-, rfl⟩ := setThreshold_eq_ok.1 h
    exact ⟨rfl, rfl, rfl, rfl⟩
  | setEnabled enabled =>
    obtain ⟨-, rfl⟩ := setEnabled_eq_ok.1 h
    exact ⟨rfl, rfl, rfl, rfl⟩

/-- No change makes a list of signers longer than the longest that may be made. -/
theorem length_signers_of_apply (h : r.apply change = .ok r') :
    r'.signers.length ≤ max maxSigners r.signers.length := by
  cases change with
  | replaceSigners signers threshold =>
    obtain ⟨⟨-, hbounded, -⟩, -, rfl⟩ := replaceSigners_eq_ok.1 h
    exact Nat.le_trans hbounded (Nat.le_max_left _ _)
  | addSigner signer =>
    obtain ⟨-, hroom, rfl⟩ := addSigner_eq_ok.1 h
    rw [List.length_append, List.length_singleton]
    exact Nat.le_trans hroom (Nat.le_max_left _ _)
  | removeSigner signer =>
    obtain ⟨-, -, rfl⟩ := removeSigner_eq_ok.1 h
    exact Nat.le_trans List.length_erase_le (Nat.le_max_right _ _)
  | setThreshold threshold =>
    obtain ⟨-, rfl⟩ := setThreshold_eq_ok.1 h
    exact Nat.le_max_right _ _
  | setEnabled enabled =>
    obtain ⟨-, rfl⟩ := setEnabled_eq_ok.1 h
    exact Nat.le_max_right _ _

/-! ## Well-formed registries -/

/-- Different signers, not too many of them, and a threshold that they can reach; nobody has to approve
only where a Project registry is switched off. -/
structure WellFormed (r : Registry) : Prop where
  nodup : r.signers.Nodup
  bounded : r.signers.length ≤ maxSigners
  within : r.threshold.toNat ≤ r.signers.length
  needed : r.threshold = 0 → r.layer = .project ∧ r.enabled = false

theorem hasRepeat_eq_false : hasRepeat signers = false ↔ signers.Nodup := by
  induction signers with
  | nil => exact iff_of_true rfl List.nodup_nil
  | cons key rest ih =>
    rw [hasRepeat, Bool.or_eq_false_iff, ih, List.nodup_cons, List.contains_eq_mem,
      decide_eq_false_iff_not]

/-- A threshold of zero is refused but where it may be zero. -/
theorem minThreshold_le_or {allowed : Prop} :
    minThreshold ≤ threshold ∨ allowed ↔ (threshold = 0 → allowed) := by
  have hmin : minThreshold ≤ threshold ↔ threshold ≠ 0 := by
    rw [UInt8.le_iff_toNat_le, ne_eq, ← UInt8.toNat_inj]
    change 1 ≤ threshold.toNat ↔ ¬threshold.toNat = 0
    omega
  rw [hmin]
  exact imp_iff_not_or.symm

theorem wellFormed_of_create (h : create layer chain authority signers threshold bump = .ok r) :
    r.WellFormed := by
  obtain ⟨⟨-, hbounded, hrepeat⟩, ⟨hwithin, hneeded⟩, rfl⟩ := create_eq_ok.1 h
  exact ⟨hasRepeat_eq_false.1 hrepeat, hbounded, hwithin, minThreshold_le_or.1 hneeded⟩

theorem WellFormed.of_apply (hr : r.WellFormed) (h : r.apply change = .ok r') : r'.WellFormed := by
  cases change with
  | replaceSigners signers threshold =>
    obtain ⟨⟨-, hbounded, hrepeat⟩, ⟨hwithin, hneeded⟩, rfl⟩ := replaceSigners_eq_ok.1 h
    exact ⟨hasRepeat_eq_false.1 hrepeat, hbounded, hwithin, minThreshold_le_or.1 hneeded⟩
  | addSigner signer =>
    obtain ⟨hnew, hroom, rfl⟩ := addSigner_eq_ok.1 h
    have hlength : (r.signers ++ [signer]).length = r.signers.length + 1 := by simp
    refine ⟨?_, by rw [hlength]; exact hroom, ?_, hr.needed⟩
    · exact List.nodup_append.2 ⟨hr.nodup, List.nodup_singleton _, by
        rintro a ha b hb rfl
        exact hnew (List.mem_singleton.1 hb ▸ ha)⟩
    · rw [hlength]
      exact Nat.le_succ_of_le hr.within
  | removeSigner signer =>
    obtain ⟨-, ⟨hwithin, hneeded⟩, rfl⟩ := removeSigner_eq_ok.1 h
    exact ⟨hr.nodup.erase signer, Nat.le_trans List.length_erase_le hr.bounded, hwithin,
      minThreshold_le_or.1 hneeded⟩
  | setThreshold threshold =>
    obtain ⟨⟨hwithin, hneeded⟩, rfl⟩ := setThreshold_eq_ok.1 h
    exact ⟨hr.nodup, hr.bounded, hwithin, minThreshold_le_or.1 hneeded⟩
  | setEnabled enabled =>
    obtain ⟨⟨hwithin, hneeded⟩, rfl⟩ := setEnabled_eq_ok.1 h
    exact ⟨hr.nodup, hr.bounded, hwithin, minThreshold_le_or.1 hneeded⟩

end RelayGate.Registry
