import BatchInbox.Bytes
import BatchInbox.Word

/-!
# Transactions to the inbox

The batcher posts its data as L1 transactions to the inbox address.  A transaction carries payloads
in its calldata or, if it is a blob transaction, in blobs that it names by their hashes.

## What is here

* `L1Position` — where a transaction is on L1.
* `InboxTx` — a transaction to the inbox; `InboxTx.payloadSource` says where its payloads are.
-/

set_option autoImplicit false
namespace BatchInbox

/-- A transaction's place: its block, and its index in the block. -/
structure L1Position where
  block : Word
  txIndex : Word
  deriving DecidableEq, Repr

namespace L1Position

/-- By block, then by index. -/
instance : Ord L1Position :=
  ⟨fun a b => (compare a.block b.block).then (compare a.txIndex b.txIndex)⟩

/-- Block and index with a colon between them. -/
def text (p : L1Position) : String := s!"{p.block}:{p.txIndex}"

end L1Position

/-- A transaction to the inbox. -/
structure InboxTx where
  block : Word
  /-- The timestamp of the block. -/
  time : Word
  index : Word
  hash : Hash
  sender : Address
  recipient : Address
  type : UInt8
  calldata : Bytes
  blobHashes : List Hash
  /-- The place of each blob among all blobs of the block. -/
  blobIndices : List Word
  deriving DecidableEq

/-- Where payloads are. -/
inductive PayloadSource where
  | calldata
  | blobs
  deriving DecidableEq, Repr

/-- The name of a source. -/
def PayloadSource.name : PayloadSource → String
  | calldata => "Calldata"
  | blobs => "Blobs"

namespace InboxTx

/-- The type of transactions with blobs. -/
def blobType : UInt8 := 3

/-- The place of the transaction on L1. -/
def position (tx : InboxTx) : L1Position := ⟨tx.block, tx.index⟩

/-- Where the payloads are.  The calldata of a transaction with blobs carries none. -/
def payloadSource (tx : InboxTx) : PayloadSource :=
  if tx.type = blobType || !tx.blobHashes.isEmpty then .blobs else .calldata

end InboxTx
end BatchInbox
