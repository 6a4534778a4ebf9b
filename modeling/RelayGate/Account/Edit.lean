import RelayGate.Account

/-!
# Changing accounts in place

Code that is handed accounts changes them where they are: what it has done before it fails stays done.
Such code is an edit. Performed on a store, it tells its lines and how it ended, and in any case there is
a store afterwards. Accounts are written by `change`, and by calls of other programs, which do all or
nothing.

Whoever goes on only after an edit that went well has its store only then: `Edit.complete` is the edit
seen from there.
-/

namespace RelayGate.Store

/-- Code that changes accounts in place. -/
structure Edit (ε α : Type) where
  /-- What is told and answered, and the store as it is then. -/
  perform : Store → Traced ε α × Store

namespace Edit

variable {ε ε' α β : Type}

/-- One edit and then another; a failure ends both, with the store as it is at that point. -/
def andThen (edit : Edit ε α) (next : α → Edit ε β) : Edit ε β where
  perform store :=
    let first := edit.perform store
    match first.1.outcome with
    | .ok a =>
      let second := (next a).perform first.2
      (⟨first.1.log ++ second.1.log, second.1.outcome⟩, second.2)
    | .error e => (⟨first.1.log, .error e⟩, first.2)

/-- Something that touches no account. -/
def ofTraced (x : Traced ε α) : Edit ε α := ⟨fun store => (x, store)⟩

instance : Monad (Edit ε) where
  pure a := ofTraced (.value a)
  bind := andThen

def ofExcept (result : Except ε α) : Edit ε α := ofTraced (.ofExcept result)

/-- The store as it is. -/
def look : Edit ε Store := ⟨fun store => (.value store, store)⟩

/-- Changes one account. -/
def change (key : Key) (f : Account → Account) : Edit ε Unit :=
  ⟨fun store => (.value (), store.put key (f (store.account key)))⟩

/-- A call of another program. One that is refused changes nothing. -/
def call (native : Store → Except ε Store) : Edit ε Unit where
  perform store :=
    match native store with
    | .ok after => (.value (), after)
    | .error e => (.fail e, store)

/-- The same edit seen from a place that reports failures in other words. -/
def mapError (f : ε → ε') (edit : Edit ε α) : Edit ε' α where
  perform store := ((edit.perform store).1.mapError f, (edit.perform store).2)

/-- The store after an edit that went well. -/
def complete (edit : Edit ε Unit) (store : Store) : Traced ε Store :=
  let performed := edit.perform store
  ⟨performed.1.log, performed.1.outcome.map fun _ => performed.2⟩

/-! ## Performing -/

variable {edit : Edit ε α} {next : α → Edit ε β} {native : Store → Except ε Store}
  {store middle after : Store} {a : α} {e : ε} {log : List LogLine}

/-- An edit that goes well and tells nothing only hands on its answer and its store. -/
theorem perform_bind_of_value (h : edit.perform store = (.value a, middle)) :
    (edit >>= next).perform store = (next a).perform middle := by
  change (edit.andThen next).perform store = _
  simp only [andThen, h]
  rfl

theorem perform_bind_of_error (h : edit.perform store = (⟨log, .error e⟩, middle)) :
    (edit >>= next).perform store = (⟨log, .error e⟩, middle) := by
  change (edit.andThen next).perform store = _
  simp only [andThen, h]

theorem perform_ofExcept_of_ok {result : Except ε α} (h : result = .ok a) :
    (ofExcept result).perform store = (.value a, store) := by
  rw [h]
  rfl

theorem perform_ofExcept_of_error {result : Except ε α} (h : result = .error e) :
    (ofExcept result).perform store = (.fail e, store) := by
  rw [h]
  rfl

theorem perform_call_of_ok (h : native store = .ok after) :
    (call native).perform store = (.value (), after) := by
  simp only [call, h]

theorem perform_mapError (f : ε → ε') (edit : Edit ε α) (store : Store) :
    (edit.mapError f).perform store =
      ((edit.perform store).1.mapError f, (edit.perform store).2) := rfl

/-! ## Completing -/

theorem complete_of_error {edit : Edit ε Unit} (h : edit.perform store = (⟨log, .error e⟩, after)) :
    edit.complete store = ⟨log, .error e⟩ := by
  simp only [complete, h]
  rfl

theorem outcome_complete_mapError (f : ε → ε') (edit : Edit ε Unit) (store : Store) :
    ((edit.mapError f).complete store).outcome = (edit.complete store).outcome.mapError f := by
  simp only [complete, perform_mapError, Traced.outcome_mapError]
  cases (edit.perform store).1.outcome <;> rfl

theorem outcome_complete_call (native : Store → Except ε Store) (store : Store) :
    ((call native).complete store).outcome = native store := by
  cases h : native store <;> simp only [complete, call, h] <;> rfl

theorem outcome_complete_bind (edit : Edit ε α) (next : α → Edit ε Unit) (store : Store) :
    ((edit >>= next).complete store).outcome =
      (edit.perform store).1.outcome.bind fun a => ((next a).complete (edit.perform store).2).outcome := by
  change ((edit.andThen next).complete store).outcome = _
  simp only [complete, andThen]
  cases (edit.perform store).1.outcome <;> rfl

theorem outcome_complete_call_bind (native : Store → Except ε Store) (next : Unit → Edit ε Unit)
    (store : Store) :
    ((call native >>= next).complete store).outcome =
      native store >>= fun middle => ((next ()).complete middle).outcome := by
  rw [outcome_complete_bind]
  cases h : native store <;> simp only [call, h] <;> rfl

theorem outcome_complete_ofExcept_bind (result : Except ε α) (next : α → Edit ε Unit) (store : Store) :
    ((ofExcept result >>= next).complete store).outcome =
      result >>= fun a => ((next a).complete store).outcome :=
  outcome_complete_bind _ _ _

end Edit

end RelayGate.Store
