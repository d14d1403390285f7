import BatchInbox.Batch.Error
import BatchInbox.BlockRange
import BatchInbox.Varint

/-!
# Span batches

A span batch carries a run of consecutive L2 blocks.  Its prefix says when the run starts and how
long it is, and how many transactions each block has; the transactions themselves follow in columns,
which are kept as they are.
-/

set_option autoImplicit false
namespace BatchInbox

/-- The transactions of a run of L2 blocks. -/
structure SpanBatch where
  /-- The timestamp of the first block, in seconds since the genesis of the chain. -/
  relTimestamp : Word
  /-- The L1 origin of the last block. -/
  l1OriginNumber : Word
  parentCheck : BytesN 20
  l1OriginCheck : BytesN 20
  blockCount : Word
  /-- A bit for each block that moves on to another L1 origin. -/
  originBits : Bytes
  /-- The number of transactions of each block. -/
  txCounts : List Word
  /-- The transactions in columns. -/
  txs : Bytes
  deriving DecidableEq

namespace SpanBatch
open Batch (SpanField)

/-- A batch may have this many blocks, and this many transactions. -/
def maxElements : Nat := 10000000

/-- The batch behind its type byte. -/
def encode (b : SpanBatch) : Bytes :=
  Varint.encode b.relTimestamp ++ Varint.encode b.l1OriginNumber ++ b.parentCheck.toList ++
    b.l1OriginCheck.toList ++ Varint.encode b.blockCount ++ b.originBits ++
    b.txCounts.flatMap Varint.encode ++ b.txs

/-! ## Reading -/

/-- Reads a number. -/
def readNumber (field : SpanField) (bytes : Bytes) : Except Batch.Error (Word × Bytes) :=
  match Varint.decode? bytes with
  | none => .error (.varint field)
  | some read => .ok read

/-- Reads twenty bytes. -/
def readCheck (field : SpanField) (bytes : Bytes) : Except Batch.Error (BytesN 20 × Bytes) :=
  match BytesN.split? 20 bytes with
  | none => .error (.truncated field)
  | some read => .ok read

/-- Reads the transaction counts of `count` blocks; `acc` holds those read before, in reverse, and
`total` is their sum. -/
def readCounts (acc : List Word) (total : Word) : (count : Nat) → Bytes →
    Except Batch.Error (List Word × Bytes)
  | 0, bytes => .ok (acc.reverse, bytes)
  | count + 1, bytes =>
    match readNumber .blockTxCount bytes with
    | .error e => .error e
    | .ok (n, bytes) =>
      let total := Word.addSat total n
      if maxElements < total.toNat then .error (.tooManyTransactions total)
      else readCounts (n :: acc) total count bytes

/-- The number of bytes that hold a bit for each of `count` blocks. -/
def originBytes (count : Nat) : Nat := (count + 7) / 8

/-- Reads a batch behind its type byte; what follows the counts are the transactions. -/
def decode (bytes : Bytes) : Except Batch.Error SpanBatch := do
  let (relTimestamp, bytes) ← readNumber .relTimestamp bytes
  let (l1OriginNumber, bytes) ← readNumber .l1OriginNumber bytes
  let (parentCheck, bytes) ← readCheck .parentCheck bytes
  let (l1OriginCheck, bytes) ← readCheck .l1OriginCheck bytes
  let (blockCount, bytes) ← readNumber .blockCount bytes
  if blockCount = 0 || maxElements < blockCount.toNat then .error (.invalidBlockCount blockCount)
  match bytes.split? (originBytes blockCount.toNat) with
  | none => .error (.truncated .originBits)
  | some (originBits, bytes) =>
    let (txCounts, txs) ← readCounts [] 0 blockCount.toNat bytes
    return ⟨relTimestamp, l1OriginNumber, parentCheck, l1OriginCheck, blockCount, originBits,
      txCounts, txs⟩

/-! ## Meaning -/

/-- The L2 blocks that the batch stands for. -/
def blocks (b : SpanBatch) (c : Rollup) : Except Batch.Error BlockRange := do
  let first ← Batch.blockAt c b.relTimestamp
  if b.blockCount = 0 then .error (.invalidBlockCount 0)
  match Word.add? first (b.blockCount - 1) with
  | none => .error (.blockOverflow b.relTimestamp)
  | some last => return ⟨first, last⟩

/-- The timestamp of each block in seconds since genesis, for blocks `blockTime` seconds apart. -/
def relativeTimestamps (b : SpanBatch) (blockTime : Word) : List Word :=
  (List.range b.blockCount.toNat).map fun i =>
    Word.addSat b.relTimestamp (Word.mulSat i.toUInt64 blockTime)

end SpanBatch
end BatchInbox
