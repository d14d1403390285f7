import BatchInbox.Batch.Error

/-!
# Single batches

A single batch carries the transactions of one L2 block, as an RLP list.  The timestamp tells which
block that is.
-/

set_option autoImplicit false
namespace BatchInbox

/-- The transactions of one L2 block. -/
structure SingleBatch where
  parentHash : Hash
  epochNumber : Word
  epochHash : Hash
  timestamp : Word
  transactions : List Bytes
  deriving DecidableEq

namespace SingleBatch

/-- The payload of the RLP list. -/
def fields (b : SingleBatch) : Bytes :=
  Rlp.string b.parentHash.toList ++ Rlp.word b.epochNumber ++ Rlp.string b.epochHash.toList ++
    Rlp.word b.timestamp ++ Rlp.strings b.transactions

/-- The batch behind its type byte. -/
def encode (b : SingleBatch) : Bytes := Rlp.list b.fields

/-- Reads the fields of a list, with what follows them. -/
def readFields (bytes : Bytes) : Except Rlp.Error (SingleBatch × Bytes) := do
  let (parentHash, bytes) ← Rlp.readFixed 32 bytes
  let (epochNumber, bytes) ← Rlp.readWord bytes
  let (epochHash, bytes) ← Rlp.readFixed 32 bytes
  let (timestamp, bytes) ← Rlp.readWord bytes
  let (transactions, bytes) ← Rlp.readStrings bytes
  return (⟨parentHash, epochNumber, epochHash, timestamp, transactions⟩, bytes)

/-- Reads a batch behind its type byte.  Its fields have to fill the list; what follows the list is
ignored. -/
def decode (bytes : Bytes) : Except Rlp.Error SingleBatch := do
  let (isList, length, bytes) ← Rlp.readHeader bytes
  if bytes.length < length then .error .inputTooShort
  if !isList then .error .unexpectedString
  let (batch, rest) ← readFields bytes
  let used := bytes.length - rest.length
  if used ≠ length then .error (.listLengthMismatch length used)
  return batch

/-- The L2 block that the batch stands for. -/
def block (b : SingleBatch) (c : Rollup) : Except Batch.Error Word :=
  match Word.sub? b.timestamp c.genesisTime with
  | none => .error (.rollup (.beforeGenesisTime b.timestamp c.genesisTime))
  | some offset => Batch.blockAt c offset

end SingleBatch
end BatchInbox
