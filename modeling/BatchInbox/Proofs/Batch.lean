import BatchInbox.Batch
import BatchInbox.Proofs.Rlp
import BatchInbox.Proofs.SpanPayload

/-!
# Batches are read back from their row

A row of batches is read batch by batch, each through the codec of its type: a single batch is one
RLP list, a span batch is a prefix of varints and fixed fields.  A span batch can be written with
numbers that no reader accepts, so the round trip is about those that keep to the limits.

## What is here

* `SingleBatch.decode_encode` — the codec of single batches; that of span batches is
  `SpanBatch.decode_encode`.
* `Batch.WellFormed` — the batches that a reader accepts.
* `Batch.decodeStream_of_ok`, `decodeStream_of_error` — a row, batch by batch.
* `Batch.decodeStream_append`, `decodeStream_encodeStream` — the whole row, whatever follows it.
-/

set_option autoImplicit false
namespace BatchInbox

/-! ## Single batches -/

namespace SingleBatch

theorem readFields_append {b : SingleBatch} (h : b.fields.length < Nat.pow 256 8) (rest : Bytes) :
    readFields (b.fields ++ rest) = .ok (b, rest) := by
  have hsize : 32 < Nat.pow 256 8 := by decide
  have htransactions : (b.transactions.flatMap Rlp.string).length < Nat.pow 256 8 := by
    refine Nat.lt_of_le_of_lt ?_ h
    simp only [fields, Rlp.strings, Rlp.list, List.length_append]
    omega
  rw [readFields, fields]
  simp only [List.append_assoc]
  rw [Rlp.readFixed_append hsize]
  simp only [bind, Except.bind]
  rw [Rlp.readWord_append]
  simp only
  rw [Rlp.readFixed_append hsize]
  simp only
  rw [Rlp.readWord_append]
  simp only
  rw [Rlp.readStrings_append htransactions]
  rfl

/-- A single batch is read back. -/
theorem decode_encode {b : SingleBatch} (h : b.fields.length < Nat.pow 256 8) :
    decode b.encode = .ok b := by
  have hheader : Rlp.readHeader b.encode = .ok (true, b.fields.length, b.fields) :=
    Rlp.readHeader_header true h nofun
  have hfields := readFields_append h []
  rw [List.append_nil] at hfields
  rw [decode, hheader]
  simp only [bind, Except.bind]
  rw [if_neg (Nat.lt_irrefl _), hfields]
  simp
  rfl

end SingleBatch

/-! ## Rows of batches -/

namespace Batch

/-- A reader accepts the batch.  Only a span batch can break a limit. -/
def WellFormed : Batch → Prop
  | single _ => True
  | span b => b.WellFormed

instance (b : Batch) : Decidable b.WellFormed :=
  match b with
  | single _ => inferInstanceAs (Decidable True)
  | span b => inferInstanceAs (Decidable b.WellFormed)

theorem decode_encode {b : Batch} (h : b.WellFormed) (hlength : b.encode.length < Nat.pow 256 8) :
    decode b.encode = .ok b := by
  cases b with
  | single b =>
    have hfields : b.fields.length < Nat.pow 256 8 := by
      refine Nat.lt_of_le_of_lt ?_ hlength
      simp only [encode, SingleBatch.encode, Rlp.list, List.length_cons, List.length_append]
      omega
    have hdecode := SingleBatch.decode_encode hfields
    simp only [encode, BatchType.byte, decode, hdecode]
  | span b =>
    have hdecode := SpanBatch.decode_encode h
    simp only [encode, BatchType.byte, decode, hdecode, Except.map]

/-- A batch that a reader accepts is read, whatever follows it. -/
theorem readNext_append {b : Batch} (h : b.WellFormed) (hlength : b.encode.length < Nat.pow 256 8)
    (rest : Bytes) : readNext (Rlp.string b.encode ++ rest) = .ok (b, rest) := by
  rw [readNext, Rlp.readString_append hlength]
  simp only [decode_encode h hlength, Except.map]

/-- A batch takes a byte. -/
theorem takesBytes_readNext : TakesBytes readNext := by
  intro bytes b rest h
  rw [readNext] at h
  rcases hread : Rlp.readString bytes with e | ⟨item, behind⟩ <;> rw [hread] at h
  · exact absurd h nofun
  · rcases hdecode : decode item with e | batch <;> simp only [hdecode, Except.map] at h <;> cases h
    exact Rlp.length_lt_of_readString hread

theorem readAll_eq_readRow (acc : List Batch) (rounds : Nat) (bytes : Bytes) :
    readAll acc rounds bytes =
      (acc.reverse ++ (readRow readNext rounds bytes).1, (readRow readNext rounds bytes).2) := by
  induction rounds generalizing acc bytes with
  | zero => simp [readAll, readRow]
  | succ rounds ih =>
    rw [readAll, readRow]
    split
    · simp
    · cases readNext bytes with
      | error e => simp
      | ok read =>
        simp only
        rw [ih]
        simp

theorem decodeStream_eq_row (bytes : Bytes) : decodeStream bytes = row readNext bytes :=
  readAll_eq_readRow [] bytes.length bytes

@[simp]
theorem decodeStream_nil : decodeStream [] = ([], none) := rfl

/-- A malformed batch ends the row. -/
theorem decodeStream_of_error {bytes : Bytes} (hne : bytes ≠ []) {e : Error}
    (h : readNext bytes = .error e) : decodeStream bytes = ([], some e) := by
  rw [decodeStream_eq_row, row_of_error hne h]

/-- Behind a batch that is read, the row goes on. -/
theorem decodeStream_of_ok {bytes rest : Bytes} {b : Batch} (h : readNext bytes = .ok (b, rest)) :
    decodeStream bytes = (b :: (decodeStream rest).1, (decodeStream rest).2) := by
  rw [decodeStream_eq_row, decodeStream_eq_row, row_of_ok takesBytes_readNext h]

/-- **A row of batches is read**, whatever follows it. -/
theorem decodeStream_append {batches : List Batch} (h : ∀ b ∈ batches, b.WellFormed)
    (hlength : ∀ b ∈ batches, b.encode.length < Nat.pow 256 8) (rest : Bytes) :
    decodeStream (encodeStream batches ++ rest) =
      (batches ++ (decodeStream rest).1, (decodeStream rest).2) := by
  rw [decodeStream_eq_row, decodeStream_eq_row, encodeStream]
  exact row_append takesBytes_readNext (fun b hb => readNext_append (h b hb) (hlength b hb)) rest

/-- **A row of batches is read back**, if its length is a word. -/
theorem decodeStream_encodeStream {batches : List Batch} (h : ∀ b ∈ batches, b.WellFormed)
    (hlength : (encodeStream batches).length < Nat.pow 256 8) :
    decodeStream (encodeStream batches) = (batches, none) := by
  have hitems : ∀ b ∈ batches, b.encode.length < Nat.pow 256 8 := by
    intro b hb
    refine Nat.lt_of_le_of_lt ?_ hlength
    have hflat : encodeStream batches = (batches.map encode).flatMap Rlp.string :=
      (List.flatMap_map ..).symm
    rw [hflat]
    exact Rlp.length_le_length_flatMap_string (List.mem_map_of_mem hb)
  simpa using decodeStream_append h hitems []

end Batch
end BatchInbox
