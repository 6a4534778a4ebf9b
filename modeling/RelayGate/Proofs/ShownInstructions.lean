import Mathlib.Data.List.Forall2
import RelayGate.Check
import RelayGate.Instruction

/-!
# The instructions that the host shows

Reading the byte string in which the host shows a list of instructions gives the instructions back, as
long as the string is so short that two bytes hold every place in it. So what is read in front of the
running instruction is what stands in front of it (`Listed.readPreceding_eq`).
-/

namespace RelayGate

namespace Bytes

variable {data piece p q : Bytes} {start len : Nat}

/-- A piece stands in the data from a position on. -/
def At (data : Bytes) (start : Nat) (piece : Bytes) : Prop :=
  ∃ front back, data = front ++ (piece ++ back) ∧ front.length = start

theorem At.take_drop (h : At data start piece) (hlen : piece.length = len) :
    (data.drop start).take len = piece := by
  obtain ⟨front, back, rfl, rfl⟩ := h
  subst hlen
  rw [List.drop_left, List.take_left]

theorem At.le_length (h : At data start piece) : start + piece.length ≤ data.length := by
  obtain ⟨front, back, rfl, rfl⟩ := h
  simp only [List.length_append]
  omega

theorem At.slice? (h : At data start piece) (hlen : piece.length = len) :
    slice? data start len = some piece := by
  have hinside := h.le_length
  rw [Bytes.slice?, if_pos (by omega), h.take_drop hlen]

theorem At.left (h : At data start (p ++ q)) : At data start p := by
  obtain ⟨front, back, rfl, hfront⟩ := h
  exact ⟨front, q ++ back, by rw [List.append_assoc], hfront⟩

theorem At.right (h : At data start (p ++ q)) : At data (start + p.length) q := by
  obtain ⟨front, back, rfl, rfl⟩ := h
  exact ⟨front ++ p, back, by simp only [List.append_assoc], List.length_append⟩

theorem At.whole (data : Bytes) : At data 0 data :=
  ⟨[], [], by rw [List.append_nil, List.nil_append], rfl⟩

section

variable {α : Type} {xs : List α} {x : α} {f : α → Bytes} {size n : Nat}

theorem length_flatMap (hsize : ∀ x, (f x).length = size) (xs : List α) :
    (xs.flatMap f).length = size * xs.length := by
  induction xs with
  | nil => rfl
  | cons x rest ih =>
    rw [List.flatMap_cons, List.length_append, hsize, ih, List.length_cons, Nat.mul_succ,
      Nat.add_comm]

/-- Each of several pieces of one length that follow each other stands at its place. -/
theorem At.flatMap (hsize : ∀ x, (f x).length = size) (h : At data start (xs.flatMap f))
    (hn : xs[n]? = some x) : At data (start + size * n) (f x) := by
  induction xs generalizing start n with
  | nil => cases hn
  | cons first rest ih =>
    rw [List.flatMap_cons] at h
    cases n with
    | zero =>
      obtain rfl : first = x := Option.some.inj hn
      exact h.left
    | succ n =>
      have hnext := ih h.right hn
      rw [hsize] at hnext
      rwa [Nat.mul_succ, Nat.add_comm (size * n), ← Nat.add_assoc]

end

end Bytes

/-- A string whose length its type tells is read back where it stands. -/
theorem FixedBytes.slice?_of_at {n start : Nat} {data : Bytes} {a : FixedBytes n}
    (h : Bytes.At data start a.bytes) : FixedBytes.slice? n data start = some a := by
  have hslice := h.slice? a.length_bytes
  unfold FixedBytes.slice?
  split
  · next piece hpiece =>
    rw [hslice] at hpiece
    exact congrArg some (FixedBytes.ext (Option.some.inj hpiece).symm)
  · next hnone =>
    rw [hslice] at hnone
    cases hnone

namespace Instruction

open Bytes (At)

variable {data : Bytes} {start n current : Nat} {instructions : List Instruction} {i : Instruction}

theorem length_word (n : Nat) : (word n).length = 2 := LittleEndian.length_encode 2 n

/-! ## Reading what stands somewhere -/

theorem read_of_at {piece : Bytes} {len : Nat} (h : At data start piece) (hlen : piece.length = len) :
    read data start len = .ok piece := by
  rw [read, h.slice? hlen]

theorem readWord_of_at (h : At data start (word n)) (hn : n < UInt16.size) : readWord data start = .ok n := by
  refine except_bind_eq_ok.2 ⟨word n, read_of_at h (length_word n), ?_⟩
  rw [word, LittleEndian.decode_encode_of_lt hn]
  rfl

theorem readKey_of_at {key : Key} (h : At data start key.bytes) : readKey data start = .ok key := by
  rw [readKey, FixedBytes.slice?_of_at h]

theorem length_encodeMeta (m : AccountMeta) : (encodeMeta m).length = 33 := by
  rw [encodeMeta, List.length_cons, m.key.length_bytes]

/-- The two privileges of an account are read back from its first byte. -/
theorem privileges_of_flags (signer writable : Bool) :
    let flags := LittleEndian.decode [(if signer then 1 else 0) + if writable then 2 else 0]
    decide (flags % 2 = 1) = signer ∧ decide (flags / 2 % 2 = 1) = writable := by
  cases signer <;> cases writable <;> decide

theorem readMetas_of_at {metas : List AccountMeta} (h : At data start (metas.flatMap encodeMeta)) :
    readMetas data metas.length start = .ok metas := by
  induction metas generalizing start with
  | nil => rfl
  | cons m rest ih =>
    rw [List.flatMap_cons] at h
    have hrest := ih h.right
    rw [length_encodeMeta] at hrest
    have hmeta : At data start ([(if m.signer then 1 else 0) + if m.writable then 2 else 0] ++
        m.key.bytes) := h.left
    obtain ⟨hsigner, hwritable⟩ := privileges_of_flags m.signer m.writable
    refine except_bind_eq_ok.2 ⟨_, read_of_at hmeta.left rfl, ?_⟩
    refine except_bind_eq_ok.2 ⟨_, readKey_of_at hmeta.right, ?_⟩
    refine except_bind_eq_ok.2 ⟨_, hrest, ?_⟩
    refine except_pure_eq_ok.2 ?_
    rw [hsigner, hwritable]

/-! ## The list -/

/-- Each piece of several that follow each other stands at its place. -/
theorem at_places {pieces : List Bytes} (h : At data start pieces.flatten) {piece : Bytes}
    (hn : pieces[n]? = some piece) : ∃ p, (places start pieces)[n]? = some p ∧ At data p piece := by
  induction pieces generalizing start n with
  | nil => cases hn
  | cons first rest ih =>
    rw [List.flatten_cons] at h
    cases n with
    | zero =>
      obtain rfl : first = piece := Option.some.inj hn
      exact ⟨start, rfl, h.left⟩
    | succ n => exact ih h.right hn

theorem length_places (start : Nat) (pieces : List Bytes) : (places start pieces).length = pieces.length := by
  induction pieces generalizing start with
  | nil => rfl
  | cons first rest ih => rw [places, List.length_cons, ih, List.length_cons]

/-- The parts of the byte string in which a list is shown, at their places. -/
structure Shown (instructions : List Instruction) (current : Nat) (data : Bytes) : Prop where
  count : At data 0 (word instructions.length)
  table : At data 2 ((places (2 + 2 * instructions.length) (instructions.map encode)).flatMap word)
  bodies : At data (2 + 2 * instructions.length) (instructions.map encode).flatten
  current : At data (data.length - 2) (word current)

theorem shown_encodeList (instructions : List Instruction) (current : Nat) :
    Shown instructions current (encodeList instructions current) := by
  have hall := At.whole (encodeList instructions current)
  have hbodies := hall.left.right
  have htable := hall.left.left.right
  have hcurrent := hall.right
  rw [List.length_append, length_word, Bytes.length_flatMap length_word, length_places, List.length_map,
    Nat.zero_add] at hbodies
  rw [length_word, Nat.zero_add] at htable
  refine ⟨hall.left.left.left, htable, hbodies, ?_⟩
  have hlength := congrArg List.length (show encodeList instructions current = _ ++ word current from rfl)
  rw [List.length_append, length_word] at hlength
  rwa [Nat.zero_add, show List.length _ = (encodeList instructions current).length - 2 by omega] at hcurrent

/-- The instruction at an index is read back. -/
theorem readAt_of_shown (h : Shown instructions current data) (hsize : data.length < UInt16.size)
    (hn : instructions[n]? = some i) : readAt data n = .ok i := by
  have hindex : n < instructions.length := (List.getElem?_eq_some_iff.1 hn).1
  have hpiece : (instructions.map encode)[n]? = some (encode i) := by rw [List.getElem?_map, hn]; rfl
  obtain ⟨p, hp, hat⟩ := at_places h.bodies hpiece
  have hplace := h.table.flatMap length_word hp
  have hmetas := hat.left.left.left.right
  have hprogram := hat.left.left.right
  have hlen := hat.left.right
  have hdata := hat.right
  simp only [List.length_append, length_word, Bytes.length_flatMap length_encodeMeta, i.program.length_bytes,
    ← Nat.add_assoc] at hmetas hprogram hlen hdata
  have hbodies := h.bodies.le_length
  have hmetasSize := hmetas.le_length
  have hdataSize := hdata.le_length
  rw [Bytes.length_flatMap length_encodeMeta] at hmetasSize
  unfold readAt
  refine except_bind_eq_ok.2 ⟨_, readWord_of_at h.count (by omega), ?_⟩
  rw [if_neg (by omega)]
  refine except_bind_eq_ok.2 ⟨_, readWord_of_at hplace (by omega), ?_⟩
  refine except_bind_eq_ok.2 ⟨_, readWord_of_at hat.left.left.left.left (by omega), ?_⟩
  refine except_bind_eq_ok.2 ⟨_, readMetas_of_at hmetas, ?_⟩
  refine except_bind_eq_ok.2 ⟨_, readKey_of_at hprogram, ?_⟩
  refine except_bind_eq_ok.2 ⟨_, readWord_of_at hlen (by omega), ?_⟩
  refine except_bind_eq_ok.2 ⟨_, read_of_at hdata rfl, ?_⟩
  rfl

/-! ## The instructions in front of the running one -/

theorem readEach_eq_ok {indices : List Nat} :
    readEach data indices = .ok instructions ↔
      List.Forall₂ (fun index i => readAt data index = .ok i) indices instructions := by
  induction indices generalizing instructions with
  | nil =>
    rw [readEach, except_pure_eq_ok, List.forall₂_nil_left_iff]
    exact eq_comm
  | cons index rest ih =>
    simp only [readEach, except_bind_eq_ok, except_pure_eq_ok, ih]
    constructor
    · rintro ⟨i, hi, is, his, rfl⟩
      exact .cons hi his
    · intro h
      cases h with
      | cons hi his => exact ⟨_, hi, _, his, rfl⟩

theorem readPreceding_eq_ok :
    readPreceding data = .ok instructions ↔
      ∃ current, currentIndex data = .ok current ∧
        List.Forall₂ (fun index i => readAt data index = .ok i) (List.range current) instructions := by
  simp only [readPreceding, except_bind_eq_ok, readEach_eq_ok]

/-- Data that list instructions, of which the one at `current` runs: each instruction is read at its own
index, and the index of the running one is read as such. -/
structure Listed (data : Bytes) (instructions : List Instruction) (current : Nat) : Prop where
  currentIndex_eq : currentIndex data = .ok current
  readAt_eq : ∀ n i, instructions[n]? = some i → readAt data n = .ok i
  le_length : current ≤ instructions.length

/-- The string in which the host shows a list is such data as long as two bytes hold its length. -/
theorem listed_encodeList (hsize : (encodeList instructions current).length < UInt16.size)
    (hcurrent : current ≤ instructions.length) :
    Listed (encodeList instructions current) instructions current := by
  have hshown := shown_encodeList instructions current
  have hbodies := hshown.bodies.le_length
  refine ⟨readWord_of_at hshown.current (by omega), ?_, hcurrent⟩
  intro n i hi
  exact readAt_of_shown hshown hsize hi

/-- What is read in front of the running instruction is what stands in front of it. -/
theorem Listed.readPreceding_eq (h : Listed data instructions current) :
    readPreceding data = .ok (instructions.take current) := by
  refine readPreceding_eq_ok.2 ⟨current, h.currentIndex_eq, ?_⟩
  refine List.forall₂_iff_get.2 ⟨?_, ?_⟩
  · rw [List.length_range, List.length_take, Nat.min_eq_left h.le_length]
  · intro n hn hn'
    refine h.readAt_eq _ _ ?_
    simp

theorem readPreceding_encodeList (hsize : (encodeList instructions current).length < UInt16.size)
    (hcurrent : current ≤ instructions.length) :
    readPreceding (encodeList instructions current) = .ok (instructions.take current) :=
  (listed_encodeList hsize hcurrent).readPreceding_eq

end Instruction

end RelayGate
