import BatchInbox.Cache
import BatchInbox.Effect
import BatchInbox.L1.Block
import BatchInbox.Rpc.Error

/-!
# Reading L1

An execution client tells headers and blocks.  The transactions to the inbox of a block are looked
for on disk first.  A file holds those of all senders, and serves whichever sender is asked for.

## What is here

* `L1Source` — an execution client.
* `InboxQuery` — which transactions are wanted; `InboxQuery.fetch`, `InboxQuery.fetchAll`.
-/

set_option autoImplicit false
namespace BatchInbox

/-- An execution client, for states of the world of type `σ`. -/
structure L1Source (σ : Type) where
  /-- The header of the last final block. -/
  finalized : Effect σ RpcError L1Header
  header : Word → Effect σ RpcError L1Header
  block : Word → Effect σ RpcError L1Block

/-- Which transactions are wanted. -/
structure InboxQuery where
  /-- The L2 chain whose files are used. -/
  l2ChainId : Word
  inbox : Address
  sender : Address
  deriving DecidableEq

namespace InboxQuery
variable {σ : Type}

/-- The transactions of a block to the inbox, from disk or from the client.  If they cannot be
written to disk, the disk stays as it is. -/
def fetchInbox (q : InboxQuery) (source : L1Source σ) (number : Word) :
    Effect (σ × Disk) RpcError (List InboxTx) := do
  match (← get).2.load? q.l2ChainId number with
  | some txs => return txs
  | none =>
    let block ← (source.block number).onFst
    let txs := block.inboxTxs q.inbox
    modify fun (world, disk) => (world, (disk.store? q.l2ChainId number txs).getD disk)
    return txs

/-- The wanted transactions of a block. -/
def fetch (q : InboxQuery) (source : L1Source σ) (number : Word) :
    Effect (σ × Disk) RpcError (List InboxTx) := do
  return (← q.fetchInbox source number).filter (·.sender = q.sender)

/-- The blocks from one to another. -/
def blocksBetween (first last : Word) : List Word :=
  if last < first then []
  else (List.range (last.toNat - first.toNat + 1)).map fun i => first + i.toUInt64

/-- The wanted transactions of each block from one to another, or why there are none. -/
def fetchAll (q : InboxQuery) (source : L1Source σ) (first last : Word) :
    Effect (σ × Disk) Empty (List (Except RpcError (Word × List InboxTx))) :=
  (blocksBetween first last).mapM fun number => do
    return (← (q.fetch source number).attempt).map fun txs => (number, txs)

end InboxQuery
end BatchInbox
