import Mathlib.Tactic.Tauto
import RelayGate.Check
import RelayGate.Log

/-!
# Checks in their order

A call that goes through a list of checks fails with the error of the first one that does not hold, and
only then (`ReportsFirst`). How such a list is put together follows how the call is: one check after
another, or one call and then a second one whose checks may take for granted that the first one went
through.
-/

namespace RelayGate

variable {ε α β : Type} {checks checks' : List (Prop × ε)} {condition : Prop} {e e' : ε}

/-- This error is the one that goes with the first condition in the list that does not hold. -/
def FirstFault (checks : List (Prop × ε)) (e : ε) : Prop :=
  ∃ before condition after,
    checks = before ++ (condition, e) :: after ∧ (∀ check ∈ before, check.1) ∧ ¬condition

theorem not_firstFault_nil : ¬FirstFault [] e := by
  rintro ⟨before, condition, after, h, -, -⟩
  simp at h

theorem firstFault_cons :
    FirstFault ((condition, e) :: checks) e' ↔
      ¬condition ∧ e = e' ∨ condition ∧ FirstFault checks e' := by
  constructor
  · rintro ⟨before, other, after, hchecks, hbefore, hother⟩
    cases before with
    | nil =>
      obtain ⟨hhead, -⟩ := List.cons.inj hchecks
      obtain ⟨rfl, rfl⟩ := Prod.mk.inj hhead
      exact .inl ⟨hother, rfl⟩
    | cons first rest =>
      obtain ⟨rfl, hrest⟩ := List.cons.inj hchecks
      rw [List.forall_mem_cons] at hbefore
      exact .inr ⟨hbefore.1, rest, other, after, hrest, hbefore.2, hother⟩
  · rintro (⟨hcondition, rfl⟩ | ⟨hcondition, before, other, after, rfl, hbefore, hother⟩)
    · exact ⟨[], condition, checks, rfl, List.forall_mem_nil _, hcondition⟩
    · exact ⟨(condition, e) :: before, other, after, rfl,
        List.forall_mem_cons.2 ⟨hcondition, hbefore⟩, hother⟩

theorem firstFault_singleton : FirstFault [(condition, e)] e' ↔ ¬condition ∧ e = e' := by
  rw [firstFault_cons, iff_false_intro not_firstFault_nil, and_false, or_false]

theorem firstFault_append :
    FirstFault (checks ++ checks') e ↔
      FirstFault checks e ∨ (∀ check ∈ checks, check.1) ∧ FirstFault checks' e := by
  induction checks with
  | nil => simp [not_firstFault_nil]
  | cons check rest ih =>
    obtain ⟨condition, error⟩ := check
    rw [List.cons_append, firstFault_cons, firstFault_cons, ih, List.forall_mem_cons]
    tauto

/-- No condition fails where all hold. -/
theorem not_firstFault (h : ∀ check ∈ checks, check.1) : ¬FirstFault checks e := by
  rintro ⟨before, condition, after, rfl, -, hcondition⟩
  exact hcondition (h _ (List.mem_append_right _ List.mem_cons_self))

theorem firstFault_append_of_forall (h : ∀ check ∈ checks, check.1) :
    FirstFault (checks ++ checks') e ↔ FirstFault checks' e := by
  rw [firstFault_append, or_iff_right (not_firstFault h), and_iff_right h]

/-- All conditions hold, or there is a first one that does not. -/
theorem forall_or_firstFault (checks : List (Prop × ε)) :
    (∀ check ∈ checks, check.1) ∨ ∃ e, FirstFault checks e := by
  induction checks with
  | nil => exact .inl (List.forall_mem_nil _)
  | cons check rest ih =>
    by_cases hcheck : check.1
    · rcases ih with hrest | ⟨e, hrest⟩
      · exact .inl (List.forall_mem_cons.2 ⟨hcheck, hrest⟩)
      · exact .inr ⟨e, firstFault_cons.2 (.inr ⟨hcheck, hrest⟩)⟩
    · exact .inr ⟨check.2, firstFault_cons.2 (.inl ⟨hcheck, rfl⟩)⟩

/-- The result of a call that fails exactly with the error of the first condition that does not hold. -/
def ReportsFirst (result : Except ε α) (checks : List (Prop × ε)) : Prop :=
  ∀ e, result = .error e ↔ FirstFault checks e

namespace ReportsFirst

variable {result : Except ε α}

/-- Where all conditions hold, such a call succeeds. -/
theorem exists_ok_iff (h : ReportsFirst result checks) :
    (∃ a, result = .ok a) ↔ ∀ check ∈ checks, check.1 := by
  constructor
  · rintro ⟨a, ha⟩
    refine (forall_or_firstFault checks).resolve_right ?_
    rintro ⟨e, he⟩
    rw [(h e).2 he] at ha
    cases ha
  · intro hall
    cases hresult : result with
    | ok a => exact ⟨a, rfl⟩
    | error e => exact absurd ((h e).1 hresult) (not_firstFault hall)

/-- A call that cannot fail, where nothing is asked that does not hold. -/
theorem ok {a : α} (h : ∀ check ∈ checks, check.1) : ReportsFirst (.ok a : Except ε α) checks :=
  fun _ => iff_of_false nofun (not_firstFault h)

theorem ok_nil {a : α} : ReportsFirst (.ok a : Except ε α) [] := ok (List.forall_mem_nil _)

/-- A single check, in whatever words its condition is put. -/
theorem ensure {stated : Prop} [Decidable stated] (h : stated ↔ condition) :
    ReportsFirst (RelayGate.ensure stated e) [(condition, e)] := by
  intro e'
  rw [ensure_eq_error, firstFault_singleton, h]

/-- Two calls in a row. The checks of the second one are only looked at when the first one has gone
through, and may be put in words that fit this case alone. -/
theorem bind {x : Except ε α} {f : α → Except ε β} (hx : ReportsFirst x checks)
    (hf : ∀ a, x = .ok a → ReportsFirst (f a) checks') : ReportsFirst (x >>= f) (checks ++ checks') := by
  intro e
  rw [except_bind_eq_error, firstFault_append, hx e, ← hx.exists_ok_iff]
  constructor
  · rintro (hfault | ⟨a, ha, hfault⟩)
    · exact .inl hfault
    · exact .inr ⟨⟨a, ha⟩, (hf a ha e).1 hfault⟩
  · rintro (hfault | ⟨⟨a, ha⟩, hfault⟩)
    · exact .inl hfault
    · exact .inr ⟨a, ha, (hf a ha e).2 hfault⟩

theorem ensure_bind {stated : Prop} [Decidable stated] {f : Unit → Except ε β} (h : stated ↔ condition)
    (hf : stated → ReportsFirst (f ()) checks) :
    ReportsFirst (RelayGate.ensure stated e >>= f) ((condition, e) :: checks) :=
  (ensure h).bind fun _ hok => hf (ensure_eq_ok.1 hok)

/-! ### Calls with a log -/

theorem outcome_bind {x : Traced ε α} {f : α → Traced ε β} (hx : ReportsFirst x.outcome checks)
    (hf : ∀ a, x.outcome = .ok a → ReportsFirst (f a).outcome checks') :
    ReportsFirst (x >>= f).outcome (checks ++ checks') := by
  rw [Traced.outcome_bind]
  exact hx.bind hf

theorem outcome_ensure_bind {stated : Prop} [Decidable stated] {f : Unit → Traced ε β}
    (h : stated ↔ condition) (hf : stated → ReportsFirst (f ()).outcome checks) :
    ReportsFirst ((liftM (RelayGate.ensure stated e) : Traced ε Unit) >>= f).outcome
      ((condition, e) :: checks) := by
  have hfirst : ReportsFirst (liftM (RelayGate.ensure stated e) : Traced ε Unit).outcome
      [(condition, e)] := ensure h
  exact hfirst.outcome_bind fun _ hok => hf (ensure_eq_ok.1 hok)

theorem outcome_say_bind {line : LogLine} {f : Unit → Traced ε β}
    (hf : ReportsFirst (f ()).outcome checks) : ReportsFirst (Traced.say line >>= f).outcome checks := by
  have hsaid : ReportsFirst (Traced.say line : Traced ε Unit).outcome [] := ok_nil
  exact hsaid.outcome_bind fun _ _ => hf

/-- A check that tells why it refuses, in front of the rest of a call. -/
theorem outcome_refuse {refused : Prop} [Decidable refused] {line : LogLine} {after : Unit → Traced ε α}
    {rest : Traced ε α} (h : ¬refused ↔ condition) (hrest : ReportsFirst rest.outcome checks) :
    ReportsFirst
      (if refused then
        (do
          Traced.say line
          let u ← Traced.fail e
          after u)
      else rest).outcome ((condition, e) :: checks) := by
  intro e'
  rw [firstFault_cons, ← h, not_not]
  by_cases hrefused : refused
  · simp [hrefused, Traced.outcome_bind_eq_error]
  · simp [hrefused, hrest e']

/-- The same check at the end of a call. -/
theorem outcome_refuse_end {refused : Prop} [Decidable refused] {line : LogLine}
    (h : ¬refused ↔ condition) :
    ReportsFirst
      (if refused then
        (do
          Traced.say line
          Traced.fail e)
      else pure () : Traced ε Unit).outcome [(condition, e)] := by
  intro e'
  rw [firstFault_singleton, ← h, not_not]
  by_cases hrefused : refused
  · simp [hrefused, Traced.outcome_bind_eq_error]
  · simp [hrefused]

end ReportsFirst

end RelayGate
