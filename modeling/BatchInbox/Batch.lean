import BatchInbox.Batch.Single
import BatchInbox.Batch.Span

/-!
# Batches

A batch is a type byte and what belongs to that type.  A channel carries a row of batches, each as
an RLP string.

## What is here

* `Batch` — a batch of either type; `Batch.encode`, `Batch.decode`.
* `Batch.blocks` — the L2 blocks that a batch stands for.
* `Batch.encodeStream`, `Batch.decodeStream` — a row of batches.
-/

set_option autoImplicit false
namespace BatchInbox

/-- The types of batches. -/
inductive BatchType where
  | single
  | span
  deriving DecidableEq, Repr

/-- A batch of either type. -/
inductive Batch where
  | single (batch : SingleBatch)
  | span (batch : SpanBatch)
  deriving DecidableEq

/-- The byte that a batch of this type starts with. -/
def BatchType.byte : BatchType → UInt8
  | single => 0
  | span => 1

/-- The name of a type. -/
def BatchType.name : BatchType → String
  | single => "Single"
  | span => "Span"

namespace Batch

/-- The type of a batch. -/
def type : Batch → BatchType
  | single _ => .single
  | span _ => .span

/-- The type byte, and what belongs to the type. -/
def encode : Batch → Bytes
  | single b => BatchType.single.byte :: b.encode
  | span b => BatchType.span.byte :: b.encode

/-- Reads a batch. -/
def decode (bytes : Bytes) : Except Error Batch :=
  match bytes with
  | [] => .error .empty
  | 0 :: payload =>
    match SingleBatch.decode payload with
    | .error cause => .error (.rlp cause)
    | .ok batch => .ok (.single batch)
  | 1 :: payload => (SpanBatch.decode payload).map .span
  | type :: _ => .error (.unknownType type)

/-- The L2 blocks that a batch stands for. -/
def blocks (b : Batch) (c : Rollup) : Except Error BlockRange :=
  match b with
  | single b => (b.block c).map fun block => ⟨block, block⟩
  | span b => b.blocks c

/-! ## Rows of batches -/

/-- The batches as RLP strings. -/
def encodeStream (batches : List Batch) : Bytes :=
  batches.flatMap fun b => Rlp.string b.encode

/-- Reads one batch of a row, with what follows it. -/
def readNext (bytes : Bytes) : Except Error (Batch × Bytes) :=
  match Rlp.readString bytes with
  | .error cause => .error (.rlp cause)
  | .ok (item, rest) => (decode item).map (·, rest)

/-- Reads batches until the input is used up or one is malformed, which leaves no boundary to go on
from; `acc` holds those read before, in reverse.  Every round takes a byte. -/
def readAll (acc : List Batch) : (rounds : Nat) → Bytes → List Batch × Option Error
  | 0, _ => (acc.reverse, none)
  | rounds + 1, bytes =>
    if bytes.isEmpty then (acc.reverse, none)
    else
      match readNext bytes with
      | .error e => (acc.reverse, some e)
      | .ok (batch, rest) => readAll (batch :: acc) rounds rest

/-- The batches of a row up to the first malformed one, and what is wrong with that one. -/
def decodeStream (bytes : Bytes) : List Batch × Option Error :=
  readAll [] bytes.length bytes

end Batch
end BatchInbox
