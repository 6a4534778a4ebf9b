import RelayGate.Proofs.RegistryRuns

/-!
# Reconfiguring registries

A change checks only the rules that its own fields could break, and relies on the others holding already.
On a well-formed registry that is enough: a change is accepted exactly when the registry that it asks for
is well formed, with a few conditions on the change itself (`Registry.Accepts`).

Some changes are refused in one order and accepted in another, since each result has to be well formed.
No registry is a dead end all the same: a few changes lead from any registry to every well-formed one of
the same office (`configurations_in_reach`).
-/

namespace RelayGate.Registry

variable {r r' : Registry} {change : Change} {changes changes' : List Change}

theorem wellFormed_iff :
    r.WellFormed ↔
      r.signers.Nodup ∧ r.signers.length ≤ maxSigners ∧ r.threshold.toNat ≤ r.signers.length ∧
        (r.threshold = 0 → r.layer = .project ∧ r.enabled = false) :=
  ⟨fun h => ⟨h.nodup, h.bounded, h.within, h.needed⟩, fun ⟨h₁, h₂, h₃, h₄⟩ => ⟨h₁, h₂, h₃, h₄⟩⟩

/-! ## Accepted changes -/

/-- The registry that a change asks for. It differs in the fields that the change names. -/
def successor (r : Registry) : Change → Registry
  | .replaceSigners signers threshold => { r with signers, threshold }
  | .addSigner signer => { r with signers := r.signers ++ [signer] }
  | .removeSigner signer => { r with signers := r.signers.filter (· != signer) }
  | .setThreshold threshold => { r with threshold }
  | .setEnabled enabled => { r with enabled }

/-- What a well-formed registry asks of a change. -/
def Accepts (r : Registry) : Change → Prop
  | .replaceSigners signers threshold =>
    signers ≠ [] ∧ (r.successor (.replaceSigners signers threshold)).WellFormed
  | .addSigner signer => signer ∉ r.signers ∧ r.signers.length < maxSigners
  | .removeSigner signer => signer ∈ r.signers ∧ (r.successor (.removeSigner signer)).WellFormed
  | .setThreshold threshold => (r.successor (.setThreshold threshold)).WellFormed
  | .setEnabled enabled => (r.successor (.setEnabled enabled)).WellFormed

theorem WellFormed.apply_eq_ok (hr : r.WellFormed) :
    r.apply change = .ok r' ↔ r.Accepts change ∧ r.successor change = r' := by
  cases change with
  | replaceSigners signers threshold =>
    refine replaceSigners_eq_ok.trans ?_
    simp only [Accepts, successor, wellFormed_iff, hasRepeat_eq_false, minThreshold_le_or]
    tauto
  | addSigner signer =>
    exact addSigner_eq_ok.trans and_assoc.symm
  | removeSigner signer =>
    refine removeSigner_eq_ok.trans ?_
    have herase := hr.nodup.erase_eq_filter signer
    have hnodup : (r.signers.filter (· != signer)).Nodup := hr.nodup.filter _
    have hbounded : (r.signers.filter (· != signer)).length ≤ maxSigners :=
      Nat.le_trans (List.length_filter_le _ _) hr.bounded
    simp only [Accepts, successor, wellFormed_iff, herase, minThreshold_le_or]
    tauto
  | setThreshold threshold =>
    refine setThreshold_eq_ok.trans ?_
    simp only [Accepts, successor, wellFormed_iff, minThreshold_le_or, hr.nodup, hr.bounded, true_and]
  | setEnabled enabled =>
    refine setEnabled_eq_ok.trans ?_
    simp only [Accepts, successor, wellFormed_iff, minThreshold_le_or, hr.nodup, hr.bounded, true_and]

/-- On a well-formed registry a change is accepted exactly when it asks for a well-formed registry, and
for signers to be put in, or one to be taken out, that are there. It then leaves that registry, which
differs in the fields that the change names alone; a change that is refused leaves all as it was. -/
theorem changes_make_successors (hr : r.WellFormed) (change : Change) :
    ((∃ r', change.edit.perform r = (.ok (), r')) ↔ r.Accepts change) ∧
      (∀ r', change.edit.perform r = (.ok (), r') → r' = r.successor change ∧ r'.WellFormed) ∧
      ∀ e r', change.edit.perform r = (.error e, r') → r' = r := by
  have hperform : ∀ r', change.edit.perform r = (.ok (), r') ↔
      r.Accepts change ∧ r.successor change = r' :=
    fun r' => apply_eq_ok.symm.trans hr.apply_eq_ok
  refine ⟨⟨?_, ?_⟩, ?_, change.atomic_edit r⟩
  · rintro ⟨r', h⟩
    exact ((hperform r').1 h).1
  · intro haccepts
    exact ⟨_, (hperform _).2 ⟨haccepts, rfl⟩⟩
  · intro r' h
    exact ⟨((hperform r').1 h).2.symm, hr.of_apply (apply_eq_ok.2 h)⟩

/-- A Project registry that is switched off and asks for nobody, though it lists as many signers as may
be. -/
def exampleDormant : Registry :=
  { layer := .project, authority := .filled 32 42,
    signers := [1, 2, 3, 4, 5, 6, 7, 8, 9, 10].map (.filled 32), threshold := 0, chain := 43113,
    enabled := false, bump := 255 }

/-- It gives up a signer and takes no other one, and cannot be switched on as it is. -/
theorem changes_make_successors_of_dormant :
    let removal : Change := .removeSigner (.filled 32 4)
    let addition : Change := .addSigner (.filled 32 11)
    exampleDormant.WellFormed ∧ exampleDormant.Accepts removal ∧
      removal.edit.perform exampleDormant =
        (.ok (), { exampleDormant with signers := [1, 2, 3, 5, 6, 7, 8, 9, 10].map (.filled 32) }) ∧
      (exampleDormant.successor removal).WellFormed ∧
      ¬exampleDormant.Accepts addition ∧ ¬exampleDormant.Accepts (.setEnabled true) ∧
      (Change.setEnabled true).edit.perform exampleDormant =
        (.error .invalidThreshold, exampleDormant) := by
  intro removal addition
  have hr : exampleDormant.WellFormed := ⟨by decide, by decide, by decide, fun _ => ⟨rfl, rfl⟩⟩
  have hremoved : removal.edit.perform exampleDormant =
      (.ok (), { exampleDormant with signers := [1, 2, 3, 5, 6, 7, 8, 9, 10].map (.filled 32) }) := by
    decide
  have hfull : (addition.edit.perform exampleDormant).1 = .error .tooManySigners := by decide
  have hzero : ((Change.setEnabled true).edit.perform exampleDormant).1 = .error .invalidThreshold := by
    decide
  obtain ⟨left, hperformed⟩ :
      ∃ left, (Change.setEnabled true).edit.perform exampleDormant = (.error .invalidThreshold, left) :=
    ⟨_, Prod.ext hzero rfl⟩
  obtain ⟨hremoval, hsuccessor, -⟩ := changes_make_successors hr removal
  obtain ⟨haddition, -, -⟩ := changes_make_successors hr addition
  obtain ⟨henabling, -, hkept⟩ := changes_make_successors hr (.setEnabled true)
  obtain ⟨hmade, hwellFormed⟩ := hsuccessor _ hremoved
  refine ⟨hr, hremoval.1 ⟨_, hremoved⟩, hremoved, hmade ▸ hwellFormed, ?_, ?_, ?_⟩
  · intro haccepts
    obtain ⟨r', h⟩ := haddition.2 haccepts
    cases hfull.symm.trans (congrArg Prod.fst h)
  · intro haccepts
    obtain ⟨r', h⟩ := henabling.2 haccepts
    cases hzero.symm.trans (congrArg Prod.fst h)
  · rw [hperformed, hkept _ _ hperformed]

/-! ## Configurations within reach -/

/-- The registry after a list of changes, all of which have to be accepted. -/
def applyAll (r : Registry) (changes : List Change) : Except GateError Registry :=
  changes.foldlM apply r

theorem applyAll_nil (r : Registry) : r.applyAll [] = .ok r := rfl

theorem applyAll_cons (h : r.apply change = .ok r') :
    r.applyAll (change :: changes) = r'.applyAll changes := by
  rw [applyAll, List.foldlM_cons, h]
  rfl

theorem applyAll_append (h : r.applyAll changes = .ok r') :
    r.applyAll (changes ++ changes') = r'.applyAll changes' := by
  rw [applyAll, List.foldlM_append]
  change r.applyAll changes >>= _ = _
  rw [h]
  rfl

theorem SameOffice.eq (h : r.SameOffice r') :
    { r with signers := r'.signers, threshold := r'.threshold, enabled := r'.enabled } = r' := by
  obtain ⟨hlayer, hchain, hauthority, hbump⟩ := h
  cases r'
  cases hlayer
  cases hchain
  cases hauthority
  cases hbump
  rfl

/-- The signers are put in with a threshold of one, which suits a registry whether it is switched on or
not, and the threshold follows once it is switched as it is to be. -/
theorem applyAll_of_signers_ne_nil (hr' : r'.WellFormed) (hsame : r.SameOffice r')
    (hsigners : r'.signers ≠ []) :
    r.applyAll [.replaceSigners r'.signers 1, .setEnabled r'.enabled, .setThreshold r'.threshold] =
      .ok r' := by
  have hsome : (1 : UInt8).toNat ≤ r'.signers.length := List.length_pos_iff.2 hsigners
  have hone : ∀ allowed : Prop, minThreshold ≤ 1 ∨ allowed := fun _ => .inl (by decide)
  let put : Registry := { r with signers := r'.signers, threshold := 1 }
  let switched : Registry := { put with enabled := r'.enabled }
  have hput : r.apply (.replaceSigners r'.signers 1) = .ok put :=
    replaceSigners_eq_ok.2
      ⟨⟨hsigners, hr'.bounded, hasRepeat_eq_false.2 hr'.nodup⟩, ⟨hsome, hone _⟩, rfl⟩
  have hswitched : put.apply (.setEnabled r'.enabled) = .ok switched :=
    setEnabled_eq_ok.2 ⟨⟨hsome, hone _⟩, rfl⟩
  have hraised : switched.apply (.setThreshold r'.threshold) = .ok r' := by
    refine setThreshold_eq_ok.2 ⟨⟨hr'.within, minThreshold_le_or.2 fun hzero => ?_⟩, hsame.eq⟩
    rw [← hsame.layer_eq]
    exact hr'.needed hzero
  rw [applyAll_cons hput, applyAll_cons hswitched, applyAll_cons hraised, applyAll_nil]

/-- A well-formed registry without signers is what is left when a last signer is removed. -/
theorem WellFormed.exists_last (hr : r.WellFormed) (hsigners : r.signers = []) :
    ∃ last signer, last.WellFormed ∧ r.SameOffice last ∧ last.signers ≠ [] ∧
      last.apply (.removeSigner signer) = .ok r := by
  obtain ⟨hzero, hoff⟩ := hr.of_signers_eq_nil hsigners
  have hwithin : r.threshold.toNat ≤ 0 := Nat.le_of_eq (congrArg UInt8.toNat hzero)
  refine ⟨{ r with signers := [r.authority] }, r.authority, ?_, ⟨rfl, rfl, rfl, rfl⟩,
    List.cons_ne_nil _ _, ?_⟩
  · exact ⟨List.nodup_singleton _, Nat.le_add_left 1 9, Nat.le_succ_of_le hwithin, hr.needed⟩
  · refine removeSigner_eq_ok.2 ⟨List.mem_singleton_self _, ⟨?_, .inr hoff⟩, ?_⟩
    · exact Nat.le_trans hwithin (Nat.zero_le _)
    · rw [List.erase_cons_head, ← hsigners]

/-- From any registry, at most four changes, all of them accepted, lead to any well-formed registry of
the same office. -/
theorem configurations_in_reach (hr' : r'.WellFormed) (hsame : r.SameOffice r') :
    ∃ changes : List Change, changes.length ≤ 4 ∧ r.applyAll changes = .ok r' := by
  by_cases hsigners : r'.signers = []
  · -- an empty list cannot be put in, but the last signer can leave
    obtain ⟨last, signer, hlast, hoffice, hsome, hleft⟩ := hr'.exists_last hsigners
    have hreached := applyAll_of_signers_ne_nil hlast (hsame.trans hoffice) hsome
    have hall := (applyAll_append hreached).trans ((applyAll_cons hleft).trans (applyAll_nil r'))
    refine ⟨_, ?_, hall⟩
    exact Nat.le_refl 4
  · exact ⟨[_, _, _], Nat.le_succ 3, applyAll_of_signers_ne_nil hr' hsame hsigners⟩

/-- `exampleDormant`, once it is to be switched on with three other signers, all of whom have to approve,
and once it is to be left without any. -/
theorem configurations_in_reach_of_dormant :
    let woken : Registry :=
      { exampleDormant with signers := [11, 12, 13].map (.filled 32), threshold := 3, enabled := true }
    let emptied : Registry := { woken with signers := [], threshold := 0, enabled := false }
    (woken.WellFormed ∧ exampleDormant.SameOffice woken ∧
        ∃ changes : List Change, changes.length ≤ 4 ∧ exampleDormant.applyAll changes = .ok woken) ∧
      (emptied.WellFormed ∧ woken.SameOffice emptied ∧
        ∃ changes : List Change, changes.length ≤ 4 ∧ woken.applyAll changes = .ok emptied) := by
  intro woken emptied
  have hwoken : woken.WellFormed := ⟨by decide, by decide, by decide, by decide⟩
  have hemptied : emptied.WellFormed := ⟨by decide, by decide, by decide, fun _ => ⟨rfl, rfl⟩⟩
  have hup : exampleDormant.SameOffice woken := ⟨rfl, rfl, rfl, rfl⟩
  have hdown : woken.SameOffice emptied := ⟨rfl, rfl, rfl, rfl⟩
  exact ⟨⟨hwoken, hup, configurations_in_reach hwoken hup⟩,
    ⟨hemptied, hdown, configurations_in_reach hemptied hdown⟩⟩

end RelayGate.Registry
