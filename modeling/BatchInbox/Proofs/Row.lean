import BatchInbox.Bytes

/-!
# Rows

The frames of a payload stand one behind the other, and so do the batches of a channel.  Such a row is
read item by item until nothing is left, or an item is malformed.  A reader that takes some bytes for
every item needs no more rounds than there are bytes, so it does not matter how many it is given.

## What is here

* `TakesBytes` — a reader that takes some bytes for every item.
* `readRow`, `row` — the items of a row, and what is wrong behind them.
* `row_of_ok`, `row_of_error` — a row, item by item.
* `row_append` — items that are read wherever they stand, and what follows them.
* `wholeRow` — a row that counts only as a whole; `eq_wholeRow_of_loop` is how it is read.
-/

set_option autoImplicit false
namespace BatchInbox

variable {ε α : Type} {next : Bytes → Except ε (α × Bytes)}

/-- The reader takes some bytes for every item. -/
def TakesBytes (next : Bytes → Except ε (α × Bytes)) : Prop :=
  ∀ bytes a rest, next bytes = .ok (a, rest) → rest.length < bytes.length

/-- Reads items until the input is used up, or one is malformed.  Every round takes an item. -/
def readRow (next : Bytes → Except ε (α × Bytes)) : (rounds : Nat) → Bytes → List α × Option ε
  | 0, _ => ([], none)
  | rounds + 1, bytes =>
    if bytes.isEmpty then ([], none)
    else
      match next bytes with
      | .error e => ([], some e)
      | .ok (a, rest) => (a :: (readRow next rounds rest).1, (readRow next rounds rest).2)

/-- The items of a row, and what is wrong with a malformed one behind them. -/
def row (next : Bytes → Except ε (α × Bytes)) (bytes : Bytes) : List α × Option ε :=
  readRow next bytes.length bytes

theorem readRow_nil (rounds : Nat) : readRow next rounds [] = ([], none) := by
  cases rounds <;> rfl

@[simp]
theorem row_nil : row next [] = ([], none) := rfl

/-- As many rounds as there are bytes are enough. -/
theorem readRow_eq_row (htakes : TakesBytes next) {rounds : Nat} {bytes : Bytes}
    (h : bytes.length ≤ rounds) : readRow next rounds bytes = row next bytes := by
  have hrounds : ∀ rounds rounds' bytes, bytes.length ≤ rounds → bytes.length ≤ rounds' →
      readRow next rounds bytes = readRow next rounds' bytes := by
    intro rounds
    induction rounds with
    | zero =>
      intro rounds' bytes h _
      rw [List.length_eq_zero_iff.1 (Nat.le_zero.1 h), readRow_nil, readRow_nil]
    | succ rounds ih =>
      intro rounds' bytes h h'
      cases rounds' with
      | zero => rw [List.length_eq_zero_iff.1 (Nat.le_zero.1 h'), readRow_nil, readRow_nil]
      | succ rounds' =>
        rw [readRow, readRow]
        split
        · rfl
        · cases hnext : next bytes with
          | error e => rfl
          | ok read =>
            have hlt := htakes _ _ _ hnext
            simp only
            rw [ih rounds' read.2 (by omega) (by omega)]
  exact hrounds rounds bytes.length bytes h (Nat.le_refl _)

/-- A malformed item ends the row. -/
theorem row_of_error {bytes : Bytes} (hne : bytes ≠ []) {e : ε} (h : next bytes = .error e) :
    row next bytes = ([], some e) := by
  obtain ⟨b, bytes, rfl⟩ := List.exists_cons_of_ne_nil hne
  rw [row, List.length_cons, readRow, if_neg (by simp), h]

/-- Behind an item that is read, the row goes on. -/
theorem row_of_ok (htakes : TakesBytes next) {bytes rest : Bytes} {a : α}
    (h : next bytes = .ok (a, rest)) :
    row next bytes = (a :: (row next rest).1, (row next rest).2) := by
  have hlt := htakes _ _ _ h
  cases bytes with
  | nil => exact absurd hlt (Nat.not_lt_zero _)
  | cons b bytes =>
    rw [List.length_cons] at hlt
    rw [row, List.length_cons, readRow, if_neg (by simp), h]
    simp only
    rw [readRow_eq_row htakes (Nat.le_of_lt_succ hlt)]

/-- **Items that are read, whatever follows them**, are read one behind the other, and then what
follows them. -/
theorem row_append (htakes : TakesBytes next) {write : α → Bytes} {items : List α}
    (h : ∀ a ∈ items, ∀ rest, next (write a ++ rest) = .ok (a, rest)) (rest : Bytes) :
    row next (items.flatMap write ++ rest) = (items ++ (row next rest).1, (row next rest).2) := by
  induction items with
  | nil => rfl
  | cons a items ih =>
    rw [List.forall_mem_cons] at h
    rw [List.flatMap_cons, List.append_assoc, row_of_ok htakes (h.1 _), ih h.2]
    rfl

/-- A row that counts only as a whole: its items, if none is malformed. -/
def wholeRow (read : List α × Option ε) : Except ε (List α) :=
  match read.2 with
  | none => .ok read.1
  | some e => .error e

theorem wholeRow_cons (a : α) (read : List α × Option ε) :
    wholeRow (a :: read.1, read.2) = (wholeRow read).map (a :: ·) := by
  obtain ⟨behind, e | e⟩ := read <;> rfl

/-- What stands in front comes in front, if anything comes at all. -/
theorem wholeRow_append (items : List α) (read : List α × Option ε) :
    wholeRow (items ++ read.1, read.2) = (wholeRow read).map (items ++ ·) := by
  obtain ⟨behind, e | e⟩ := read <;> rfl

/-- A loop that collects items in reverse, and stops at a malformed one, reads a row as a whole. -/
theorem eq_wholeRow_of_loop (next : Bytes → Except ε (α × Bytes))
    {loop : List α → Nat → Bytes → Except ε (List α)}
    (hzero : ∀ acc bytes, loop acc 0 bytes = .ok acc.reverse)
    (hsucc : ∀ acc rounds bytes, loop acc (rounds + 1) bytes =
      if bytes.isEmpty then .ok acc.reverse
      else next bytes >>= fun read => loop (read.1 :: acc) rounds read.2)
    (acc : List α) (rounds : Nat) (bytes : Bytes) :
    loop acc rounds bytes = (wholeRow (readRow next rounds bytes)).map (acc.reverse ++ ·) := by
  induction rounds generalizing acc bytes with
  | zero => simp [hzero, readRow, wholeRow, Except.map]
  | succ rounds ih =>
    rw [hsucc, readRow]
    split
    · simp [wholeRow, Except.map]
    · cases next bytes with
      | error e => rfl
      | ok read =>
        simp only [bind, Except.bind]
        rw [ih, wholeRow_cons]
        cases wholeRow (readRow next rounds read.2) <;> simp [Except.map]

end BatchInbox
