import RelayGate.Bytes

/-!
# Tables

A finite map whose entries are kept in the order of their keys, so that listing a table is already
the order in which its content is shown, and two tables with the same content are equal.

Keys are compared through a number, their `rank`. Main statements: `get?_insert`, `get?_erase`, and
`ext`, which together say everything about a table that its content says.
-/

namespace RelayGate

/-- A type whose values are told apart, and ordered, by a number. -/
class Ranked (κ : Type) where
  rank : κ → Nat
  /-- Different values have different numbers. -/
  rank_injective : ∀ a b, rank a = rank b → a = b

export Ranked (rank)

theorem rank_inj {κ : Type} [Ranked κ] {a b : κ} : rank a = rank b ↔ a = b :=
  ⟨Ranked.rank_injective a b, congrArg rank⟩

instance : Ranked UInt64 where
  rank n := n.toNat
  rank_injective _ _ h := UInt64.toNat_inj.1 h

instance (n : Nat) : Ranked (FixedBytes n) where
  rank a := Bytes.bigEndian a.bytes
  rank_injective a b h :=
    FixedBytes.ext
      (Bytes.bigEndian_injective (a.length_bytes.trans b.length_bytes.symm) h)

/-- A finite map, listed by the rank of its keys. -/
structure Table (κ α : Type) [Ranked κ] where
  entries : List (κ × α)
  /-- Each key is listed once, in order. -/
  sorted : entries.Pairwise fun a b => rank a.1 < rank b.1

namespace Table

variable {κ α : Type} [Ranked κ]

def lookup (k : κ) : List (κ × α) → Option α
  | [] => none
  | e :: rest => if rank k = rank e.1 then some e.2 else lookup k rest

/-- Puts an entry in its place, where it replaces one of the same key. -/
def insertEntry (k : κ) (a : α) : List (κ × α) → List (κ × α)
  | [] => [(k, a)]
  | e :: rest =>
    if rank k < rank e.1 then (k, a) :: e :: rest
    else if rank k = rank e.1 then (k, a) :: rest
    else e :: insertEntry k a rest

def eraseEntry (k : κ) (entries : List (κ × α)) : List (κ × α) :=
  entries.filter fun e => rank k ≠ rank e.1

theorem mem_insertEntry {k : κ} {a : α} {entries : List (κ × α)} {e : κ × α}
    (h : e ∈ insertEntry k a entries) : e = (k, a) ∨ e ∈ entries := by
  induction entries with
  | nil => exact Or.inl (by simpa [insertEntry] using h)
  | cons x rest ih =>
    unfold insertEntry at h
    split at h
    · simpa using h
    · split at h
      · rcases List.mem_cons.1 h with h | h
        · exact Or.inl h
        · exact Or.inr (List.mem_cons_of_mem _ h)
      · rcases List.mem_cons.1 h with h | h
        · exact Or.inr (by simp [h])
        · rcases ih h with h | h
          · exact Or.inl h
          · exact Or.inr (List.mem_cons_of_mem _ h)

theorem sorted_insertEntry {k : κ} {a : α} {entries : List (κ × α)}
    (h : entries.Pairwise fun a b => rank a.1 < rank b.1) :
    (insertEntry k a entries).Pairwise fun a b => rank a.1 < rank b.1 := by
  induction entries with
  | nil => simp [insertEntry]
  | cons x rest ih =>
    rw [List.pairwise_cons] at h
    unfold insertEntry
    split
    · next hlt =>
      refine List.pairwise_cons.2 ⟨fun b hb => ?_, List.pairwise_cons.2 h⟩
      rcases List.mem_cons.1 hb with rfl | hb
      · exact hlt
      · exact Nat.lt_trans hlt (h.1 b hb)
    · split
      · next heq =>
        refine List.pairwise_cons.2 ⟨fun b hb => ?_, h.2⟩
        have hxb := h.1 b hb
        change rank k < rank b.1
        omega
      · next hge hne =>
        refine List.pairwise_cons.2 ⟨fun b hb => ?_, ih h.2⟩
        rcases mem_insertEntry hb with rfl | hb
        · change rank x.1 < rank k
          omega
        · exact h.1 b hb

def empty : Table κ α := ⟨[], List.Pairwise.nil⟩

instance : Inhabited (Table κ α) := ⟨empty⟩

def get? (t : Table κ α) (k : κ) : Option α := lookup k t.entries

/-- The table in which the key has this value. -/
def insert (t : Table κ α) (k : κ) (a : α) : Table κ α :=
  ⟨insertEntry k a t.entries, sorted_insertEntry t.sorted⟩

/-- The table in which the key has no value. -/
def erase (t : Table κ α) (k : κ) : Table κ α :=
  ⟨eraseEntry k t.entries, t.sorted.sublist List.filter_sublist⟩

/-- The table of these entries, of which the last one of a key counts. -/
def ofList (entries : List (κ × α)) : Table κ α :=
  entries.foldl (fun t e => t.insert e.1 e.2) empty

/-! ## The content of a table -/

theorem lookup_insertEntry (k k' : κ) (a : α) (entries : List (κ × α)) :
    lookup k' (insertEntry k a entries) = if rank k' = rank k then some a else lookup k' entries := by
  induction entries with
  | nil => simp [insertEntry, lookup]
  | cons x rest ih =>
    unfold insertEntry
    split
    · simp [lookup]
    · split
      · next hge heq =>
        simp only [lookup]
        split
        · rfl
        · next hne => rw [if_neg (by omega)]
      · next hge hne =>
        simp only [lookup, ih]
        by_cases h : rank k' = rank k
        · rw [if_pos h, if_pos h, if_neg (by omega)]
        · rw [if_neg h, if_neg h]

theorem get?_insert (t : Table κ α) (k k' : κ) (a : α) :
    (t.insert k a).get? k' = if rank k' = rank k then some a else t.get? k' :=
  lookup_insertEntry k k' a t.entries

@[simp] theorem get?_insert_self (t : Table κ α) (k : κ) (a : α) :
    (t.insert k a).get? k = some a := by
  simp [get?_insert]

theorem get?_insert_of_ne (t : Table κ α) {k k' : κ} (h : k' ≠ k) (a : α) :
    (t.insert k a).get? k' = t.get? k' := by
  simp [get?_insert, rank_inj, h]

theorem lookup_eraseEntry (k k' : κ) (entries : List (κ × α)) :
    lookup k' (eraseEntry k entries) = if rank k' = rank k then none else lookup k' entries := by
  induction entries with
  | nil => simp [eraseEntry, lookup]
  | cons x rest ih =>
    unfold eraseEntry at ih ⊢
    by_cases hx : rank k = rank x.1
    · rw [List.filter_cons_of_neg (by simp [hx]), ih]
      by_cases h : rank k' = rank k
      · rw [if_pos h, if_pos h]
      · rw [if_neg h, if_neg h, lookup, if_neg (by omega)]
    · rw [List.filter_cons_of_pos (by simp [hx]), lookup, lookup, ih]
      by_cases h : rank k' = rank k
      · rw [if_pos h, if_pos h, if_neg (by omega)]
      · rw [if_neg h, if_neg h]

theorem get?_erase (t : Table κ α) (k k' : κ) :
    (t.erase k).get? k' = if rank k' = rank k then none else t.get? k' :=
  lookup_eraseEntry k k' t.entries

@[simp] theorem get?_erase_self (t : Table κ α) (k : κ) : (t.erase k).get? k = none := by
  simp [get?_erase]

theorem get?_erase_of_ne (t : Table κ α) {k k' : κ} (h : k' ≠ k) :
    (t.erase k).get? k' = t.get? k' := by
  simp [get?_erase, rank_inj, h]

theorem lookup_eq_none_of_lt {k : κ} {entries : List (κ × α)}
    (h : ∀ e ∈ entries, rank k < rank e.1) : lookup k entries = none := by
  induction entries with
  | nil => rfl
  | cons x rest ih =>
    have hx := h x (by simp)
    rw [lookup, if_neg (by omega)]
    exact ih fun e he => h e (by simp [he])

theorem mem_of_lookup {k : κ} {a : α} {entries : List (κ × α)} (h : lookup k entries = some a) :
    (k, a) ∈ entries := by
  induction entries with
  | nil => exact absurd h (by simp [lookup])
  | cons x rest ih =>
    unfold lookup at h
    split at h
    · next hk =>
      injection h with h
      subst h
      rw [rank_inj] at hk
      subst hk
      simp
    · exact List.mem_cons_of_mem _ (ih h)

theorem lookup_of_mem {k : κ} {a : α} {entries : List (κ × α)}
    (hs : entries.Pairwise fun a b => rank a.1 < rank b.1) (h : (k, a) ∈ entries) :
    lookup k entries = some a := by
  induction entries with
  | nil => exact absurd h (by simp)
  | cons x rest ih =>
    rw [List.pairwise_cons] at hs
    rcases List.mem_cons.1 h with rfl | h
    · simp [lookup]
    · have hx := hs.1 _ h
      dsimp only at hx
      rw [lookup, if_neg (by omega)]
      exact ih hs.2 h

theorem mem_entries {t : Table κ α} {k : κ} {a : α} : (k, a) ∈ t.entries ↔ t.get? k = some a :=
  ⟨lookup_of_mem t.sorted, mem_of_lookup⟩

theorem entries_eq_of_lookup {es fs : List (κ × α)}
    (hes : es.Pairwise fun a b => rank a.1 < rank b.1)
    (hfs : fs.Pairwise fun a b => rank a.1 < rank b.1) (h : ∀ k, lookup k es = lookup k fs) :
    es = fs := by
  induction es generalizing fs with
  | nil =>
    cases fs with
    | nil => rfl
    | cons f fs => exact absurd (h f.1) (by simp [lookup])
  | cons e es ih =>
    cases fs with
    | nil => exact absurd (h e.1) (by simp [lookup])
    | cons f fs =>
      rw [List.pairwise_cons] at hes hfs
      have hef : e = f := by
        have he := h e.1
        have hf := h f.1
        rw [lookup, if_pos rfl] at he
        rw [lookup.eq_2 f.1 f fs, if_pos rfl] at hf
        have he' := mem_of_lookup he.symm
        have hf' := mem_of_lookup hf
        rcases List.mem_cons.1 he' with heq | he'
        · exact heq
        · rcases List.mem_cons.1 hf' with heq | hf'
          · exact heq.symm
          · have h1 := hfs.1 _ he'
            have h2 := hes.1 _ hf'
            dsimp only at h1 h2
            omega
      subst hef
      rw [ih hes.2 hfs.2]
      intro k
      by_cases hk : rank k = rank e.1
      · rw [rank_inj] at hk
        subst hk
        rw [lookup_eq_none_of_lt hes.1, lookup_eq_none_of_lt hfs.1]
      · have hk' := h k
        rwa [lookup, lookup.eq_2, if_neg hk, if_neg hk] at hk'

/-- Two tables with the same content are equal. -/
theorem ext {t u : Table κ α} (h : ∀ k, t.get? k = u.get? k) : t = u := by
  cases t with
  | mk es hes =>
    cases u with
    | mk fs hfs =>
      have heq : es = fs := entries_eq_of_lookup hes hfs h
      subst heq
      rfl

theorem insert_insert (t : Table κ α) (k : κ) (a b : α) : (t.insert k a).insert k b = t.insert k b := by
  refine ext fun k' => ?_
  rw [get?_insert, get?_insert, get?_insert]
  split
  · rfl
  · rfl

end Table

end RelayGate
