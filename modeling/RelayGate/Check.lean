/-!
# Checks

The rules of the gate are sequences of checks, of which the first that fails is reported. The lemmas
say what it means for such a sequence to succeed, and which check a failure comes from; with them a
proof reads a `do` block as a conjunction.
-/

namespace RelayGate

/-- Passes when a condition holds and refuses otherwise. -/
def ensure {ε : Type} (condition : Prop) [Decidable condition] (otherwise : ε) : Except ε Unit :=
  if condition then .ok () else .error otherwise

section

variable {ε ε' α β : Type}

@[simp] theorem ensure_eq_ok {condition : Prop} [Decidable condition] {e : ε} {u : Unit} :
    ensure condition e = .ok u ↔ condition := by
  unfold ensure
  split <;> simp [*]

@[simp] theorem ensure_eq_error {condition : Prop} [Decidable condition] {e e' : ε} :
    ensure condition e = .error e' ↔ ¬condition ∧ e = e' := by
  unfold ensure
  split <;> simp [*]

theorem except_bind_eq_ok {x : Except ε α} {f : α → Except ε β} {b : β} :
    (x >>= f) = .ok b ↔ ∃ a, x = .ok a ∧ f a = .ok b := by
  cases x <;> simp [bind, Except.bind]

theorem except_bind_eq_error {x : Except ε α} {f : α → Except ε β} {e : ε} :
    (x >>= f) = .error e ↔ x = .error e ∨ ∃ a, x = .ok a ∧ f a = .error e := by
  cases x <;> simp [bind, Except.bind]

theorem except_pure_eq_ok {a b : α} : (pure a : Except ε α) = .ok b ↔ a = b := by
  simp [pure, Except.pure]

theorem exists_unit_and {p : Unit → Prop} : (∃ u, p u) ↔ p () :=
  ⟨fun ⟨(), h⟩ => h, fun h => ⟨(), h⟩⟩

theorem isOk_eq_true {x : Except ε α} : x.isOk = true ↔ ∃ a, x = .ok a := by
  cases x <;> simp [Except.isOk, Except.toBool]

@[simp] theorem mapError_eq_ok {x : Except ε α} {f : ε → ε'} {a : α} :
    x.mapError f = .ok a ↔ x = .ok a := by
  cases x with
  | error e => exact ⟨nofun, nofun⟩
  | ok a' =>
    change Except.ok a' = Except.ok a ↔ _
    rw [Except.ok.injEq, Except.ok.injEq]

end

end RelayGate
