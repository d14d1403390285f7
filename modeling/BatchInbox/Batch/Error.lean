import BatchInbox.Rlp
import BatchInbox.Rollup

/-!
# What can be wrong with a batch

A batch can be malformed, or well-formed and still not stand for blocks of the chain at hand.
-/

set_option autoImplicit false
namespace BatchInbox.Batch

/-- The parts of a span batch, in their order. -/
inductive SpanField where
  | relTimestamp
  | l1OriginNumber
  | parentCheck
  | l1OriginCheck
  | blockCount
  | originBits
  | blockTxCount
  deriving DecidableEq, Repr

/-- The name of a part in messages. -/
def SpanField.name : SpanField → String
  | relTimestamp => "rel_timestamp"
  | l1OriginNumber => "l1_origin_num"
  | parentCheck => "parent_check"
  | l1OriginCheck => "l1_origin_check"
  | blockCount => "block_count"
  | originBits => "origin_bits"
  | blockTxCount => "block_tx_count"

/-- What can be wrong with a batch. -/
inductive Error where
  | empty
  | unknownType (type : UInt8)
  | rlp (cause : Rlp.Error)
  | truncated (field : SpanField)
  | varint (field : SpanField)
  | invalidBlockCount (count : Word)
  | tooManyTransactions (count : Word)
  | misalignedTimestamp (offset blockTime : Word)
  | blockOverflow (offset : Word)
  | rollup (cause : Rollup.Error)
  deriving DecidableEq, Repr

/-- The text of an error. -/
def Error.message : Error → String
  | empty => "empty batch"
  | unknownType type => s!"unknown batch type: {type}"
  | rlp cause => s!"rlp: {cause.message}"
  | truncated field => s!"span batch truncated while reading {field.name}"
  | varint field => s!"invalid span batch varint for {field.name}"
  | invalidBlockCount count => s!"invalid span batch block count: {count}"
  | tooManyTransactions count => s!"span batch has too many transactions: {count}"
  | misalignedTimestamp offset blockTime =>
    s!"batch timestamp offset {offset} is not a multiple of block time {blockTime}"
  | blockOverflow offset => s!"batch at timestamp offset {offset} covers blocks past u64::MAX"
  | rollup cause => cause.message

/-- The block whose timestamp lies `offset` seconds behind the genesis of the chain. -/
def blockAt (c : Rollup) (offset : Word) : Except Error Word :=
  if offset % c.blockTime ≠ 0 then .error (.misalignedTimestamp offset c.blockTime)
  else
    match Word.add? (offset / c.blockTime) c.genesisBlock with
    | none => .error (.blockOverflow offset)
    | some block => .ok block

end BatchInbox.Batch
