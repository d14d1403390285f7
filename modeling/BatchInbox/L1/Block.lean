import BatchInbox.InboxTx

/-!
# L1 blocks

Of an L1 block, only its transactions to the inbox matter, and where their blobs are among all blobs
of the block.

## What is here

* `L1Header`, `L1Tx`, `L1Block` — what an execution client tells.
* `L1Block.inboxTxs` — the transactions to an inbox.
-/

set_option autoImplicit false
namespace BatchInbox

/-- The number and the time of a block. -/
structure L1Header where
  number : Word
  timestamp : Word
  deriving DecidableEq, Repr

/-- A transaction. -/
structure L1Tx where
  hash : Hash
  index : Word
  sender : Address
  /-- There is none if the transaction creates a contract. -/
  recipient? : Option Address
  type : UInt8
  input : Bytes
  blobHashes : List Hash
  deriving DecidableEq

/-- A block with its transactions, in any order. -/
structure L1Block where
  number : Word
  timestamp : Word
  txs : List L1Tx
  deriving DecidableEq

namespace L1Block

/-- The transactions by ascending index. -/
def sortedTxs (b : L1Block) : List L1Tx :=
  b.txs.mergeSort fun s t => s.index ≤ t.index

/-- A transaction to the inbox, with `cursor` blobs in front of its own.  The calldata of a blob
transaction is not kept. -/
def inboxTx (b : L1Block) (inbox : Address) (cursor : Nat) (tx : L1Tx) : InboxTx where
  block := b.number
  time := b.timestamp
  index := tx.index
  hash := tx.hash
  sender := tx.sender
  recipient := inbox
  type := tx.type
  calldata := if tx.type = InboxTx.blobType then [] else tx.input
  blobHashes := tx.blobHashes
  blobIndices := (List.range' cursor tx.blobHashes.length).map (·.toUInt64)

/-- The transactions to the inbox among `txs`, with `cursor` blobs in front of theirs. -/
def inboxTxsFrom (b : L1Block) (inbox : Address) : (cursor : Nat) → List L1Tx → List InboxTx
  | _, [] => []
  | cursor, tx :: txs =>
    let others := inboxTxsFrom b inbox (cursor + tx.blobHashes.length) txs
    if tx.recipient? = some inbox then b.inboxTx inbox cursor tx :: others else others

/-- The transactions to the inbox, by ascending index. -/
def inboxTxs (b : L1Block) (inbox : Address) : List InboxTx :=
  b.inboxTxsFrom inbox 0 b.sortedTxs

end L1Block
end BatchInbox
