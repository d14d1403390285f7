import BatchInbox.Proofs.Batch

/-!
# Rows of batches, item by item

Someone who asks a row for one batch after the other gets an item at a time: a batch, or what is
wrong with a malformed one.  Behind a malformed batch there is no telling where the next one begins,
so the row has no more items.

This is how a row of batches is meant, and `Batch.decodeStream` gives these items in one go: the
batches, and the error if there is one.

## What is here

* `Batch.next?` — the next item of a row, and what is left behind it.
* `Batch.Gives` — the items that one gets by asking again and again, until there are no more.
* `Batch.gives_iff` — they are those that `decodeStream` gives.
* `Batch.gives_encodeStream` — batches that were written come first, and then what follows them.
-/

set_option autoImplicit false
namespace BatchInbox
namespace Batch

/-- The next item of a row, and what is left behind it.  Behind a malformed batch nothing is. -/
def next? (bytes : Bytes) : Option (Except Error Batch × Bytes) :=
  if bytes.isEmpty then none
  else
    match readNext bytes with
    | .error e => some (.error e, [])
    | .ok (b, rest) => some (.ok b, rest)

/-- These are the items of a row, one after the other, and then there are no more. -/
inductive Gives : Bytes → List (Except Error Batch) → Prop
  | done {bytes : Bytes} (h : next? bytes = none) : Gives bytes []
  | item {bytes rest : Bytes} {item : Except Error Batch} {items : List (Except Error Batch)}
      (h : next? bytes = some (item, rest)) (hrest : Gives rest items) : Gives bytes (item :: items)

/-- The items of a row as it is read in one go. -/
def items (bytes : Bytes) : List (Except Error Batch) :=
  (decodeStream bytes).1.map .ok ++ (decodeStream bytes).2.toList.map .error

/-! ## One item -/

theorem next?_eq_none_iff {bytes : Bytes} : next? bytes = none ↔ bytes = [] := by
  cases bytes with
  | nil => simp [next?]
  | cons b bytes =>
    rw [next?, if_neg (by simp)]
    cases readNext (b :: bytes) <;> simp

/-- An item is a batch that is read, or the error of a malformed one, behind which nothing is
left. -/
theorem next?_cases {bytes rest : Bytes} {item : Except Error Batch}
    (h : next? bytes = some (item, rest)) :
    (∃ b, item = .ok b ∧ readNext bytes = .ok (b, rest)) ∨
      ∃ e, item = .error e ∧ rest = [] ∧ bytes ≠ [] ∧ readNext bytes = .error e := by
  have hne : bytes ≠ [] := by
    rintro rfl
    exact absurd h nofun
  rw [next?, if_neg (by simpa using hne)] at h
  cases hnext : readNext bytes with
  | error e =>
    rw [hnext] at h
    cases h
    exact .inr ⟨e, rfl, rfl, hne, rfl⟩
  | ok read =>
    rw [hnext] at h
    cases h
    exact .inl ⟨read.1, rfl, rfl⟩

/-- An item takes a byte. -/
theorem length_lt_of_next? {bytes rest : Bytes} {item : Except Error Batch}
    (h : next? bytes = some (item, rest)) : rest.length < bytes.length := by
  rcases next?_cases h with ⟨b, -, hnext⟩ | ⟨e, -, rfl, hne, -⟩
  · exact takesBytes_readNext _ _ _ hnext
  · exact List.length_pos_iff.2 hne

theorem items_of_next? {bytes rest : Bytes} {item : Except Error Batch}
    (h : next? bytes = some (item, rest)) : items bytes = item :: items rest := by
  rcases next?_cases h with ⟨b, rfl, hnext⟩ | ⟨e, rfl, rfl, hne, hnext⟩
  · rw [items, decodeStream_of_ok hnext]
    rfl
  · rw [items, decodeStream_of_error hne hnext]
    rfl

/-! ## All items -/

/-- Whoever asks again and again comes to an end, with the items that are read in one go. -/
theorem gives_items (bytes : Bytes) : Gives bytes (items bytes) := by
  generalize hlength : bytes.length = length
  induction length using Nat.strongRecOn generalizing bytes with
  | ind length ih =>
    cases hnext : next? bytes with
    | none =>
      rw [next?_eq_none_iff.1 hnext]
      exact .done rfl
    | some next =>
      obtain ⟨item, rest⟩ := next
      have hlt := length_lt_of_next? hnext
      rw [items_of_next? hnext]
      exact .item hnext (ih rest.length (hlength ▸ hlt) rest rfl)

theorem Gives.eq_items {bytes : Bytes} {all : List (Except Error Batch)} (h : Gives bytes all) :
    all = items bytes := by
  induction h with
  | done h =>
    rw [next?_eq_none_iff.1 h]
    rfl
  | item h _ ih => rw [items_of_next? h, ih]

/-- **What a row gives** is what is read in one go. -/
theorem gives_iff {bytes : Bytes} {all : List (Except Error Batch)} :
    Gives bytes all ↔ all = items bytes :=
  ⟨Gives.eq_items, fun h => h ▸ gives_items bytes⟩

/-- There are no more items than bytes. -/
theorem Gives.length_le {bytes : Bytes} {all : List (Except Error Batch)} (h : Gives bytes all) :
    all.length ≤ bytes.length := by
  induction h with
  | done _ => exact Nat.zero_le _
  | item h _ ih => exact Nat.lt_of_le_of_lt ih (length_lt_of_next? h)

/-- Nothing comes behind an error. -/
theorem Gives.eq_nil_of_error {bytes : Bytes} {all before after : List (Except Error Batch)}
    {e : Error} (h : Gives bytes all) (hsplit : all = before ++ .error e :: after) : after = [] := by
  induction h generalizing before with
  | done _ => exact absurd hsplit (by simp)
  | item h hrest ih =>
    cases before with
    | nil =>
      cases hsplit
      rcases next?_cases h with ⟨b, hitem, -⟩ | ⟨_, -, rfl, -, -⟩
      · exact absurd hitem nofun
      · exact hrest.eq_items
    | cons first before =>
      cases hsplit
      exact ih rfl

/-- Batches that were written come first, and then what follows them. -/
theorem gives_encodeStream_append {batches : List Batch} (h : ∀ b ∈ batches, b.WellFormed)
    (hlength : ∀ b ∈ batches, b.encode.length < Nat.pow 256 8) {rest : Bytes}
    {all : List (Except Error Batch)} (hrest : Gives rest all) :
    Gives (encodeStream batches ++ rest) (batches.map .ok ++ all) := by
  rw [gives_iff, items, decodeStream_append h hlength, hrest.eq_items, items, List.map_append,
    List.append_assoc]

/-- **Rows of batches.**  In front of anything, batches that were written are given as they were, in
their order, and then comes what would come without them; with nothing behind them, that is all.  And
any bytes whatever give items up to an end, which comes no later than the bytes end, or behind the
first error.

An RLP header has room for lengths up to eight bytes, so the batches must not be longer. -/
theorem gives_encodeStream :
    (∀ batches : List Batch, (∀ b ∈ batches, b.WellFormed) →
      (∀ b ∈ batches, b.encode.length < Nat.pow 256 8) →
        (∀ (rest : Bytes) (all : List (Except Error Batch)), Gives rest all →
          Gives (encodeStream batches ++ rest) (batches.map .ok ++ all)) ∧
        Gives (encodeStream batches) (batches.map .ok)) ∧
    ∀ bytes : Bytes, ∃ all, Gives bytes all ∧ (∀ all', Gives bytes all' → all' = all) ∧
      all = (decodeStream bytes).1.map .ok ++ (decodeStream bytes).2.toList.map .error ∧
      all.length ≤ bytes.length ∧
      ∀ before e after, all = before ++ .error e :: after → after = [] := by
  refine ⟨fun batches h hlength => ⟨fun rest all => gives_encodeStream_append h hlength, ?_⟩,
    fun bytes => ?_⟩
  · simpa using gives_encodeStream_append h hlength (.done (next?_eq_none_iff.2 rfl))
  · have hall := gives_items bytes
    exact ⟨items bytes, hall, fun _ => Gives.eq_items, rfl, hall.length_le,
      fun _ _ _ => hall.eq_nil_of_error⟩

/-- A batch of either type. -/
def twoBatches : List Batch :=
  [.single ⟨BytesN.zero 32, 7, BytesN.zero 32, 20, [[1], []]⟩,
    .span ⟨22, 7, BytesN.zero 20, BytesN.zero 20, 3, [5], [1, 0, 2], [9, 9]⟩]

theorem gives_encodeStream_twoBatches :
    Gives (encodeStream twoBatches ++ [1, 2, 3])
        (twoBatches.map .ok ++ [.error (.varint .relTimestamp)]) ∧
      Gives (encodeStream twoBatches) (twoBatches.map .ok) := by
  have hmalformed : Gives [1, 2, 3] [.error (.varint .relTimestamp)] := .item rfl (.done rfl)
  obtain ⟨happend, halone⟩ := gives_encodeStream.1 twoBatches (by decide +kernel) (by decide +kernel)
  exact ⟨happend [1, 2, 3] _ hmalformed, halone⟩

end Batch
end BatchInbox
