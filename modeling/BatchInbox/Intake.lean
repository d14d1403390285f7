import BatchInbox.Blob
import BatchInbox.ChannelTable

/-!
# Intake of transactions

Transactions come in, in the order of their blocks, and closed channels come out.  A transaction's
payloads are read one by one; a blob or a payload that is malformed carries no frames, and a frame
that its channel does not take is skipped.

## What is here

* `Intake` — the table of channels, the block that has been reached, and the channels given up.
* `InboxTx.frames` — the frames of a transaction and its blobs.
* `Intake.advance`, `Intake.push`, `Intake.close`.
-/

set_option autoImplicit false
namespace BatchInbox

namespace InboxTx

/-- The payloads of a transaction; malformed blobs have none. -/
def payloads (tx : InboxTx) (blobs : List Blob) : List Bytes :=
  match tx.payloadSource with
  | .calldata => [tx.calldata]
  | .blobs => blobs.filterMap fun blob => blob.decode.toOption

/-- The frames of a transaction; malformed payloads have none. -/
def frames (tx : InboxTx) (blobs : List Blob) : List Frame :=
  (tx.payloads blobs).flatMap fun payload => (Frame.decodeAll payload).toOption.getD []

end InboxTx

/-- Where the reading of transactions has got to. -/
structure Intake where
  table : ChannelTable
  /-- The block that has been reached. -/
  block? : Option Word
  /-- The channels given up so far. -/
  dropped : List DroppedChannel
  deriving DecidableEq

namespace Intake

/-- Why a transaction is refused. -/
inductive Error where
  | blobCount (expected given : Nat)
  | outOfOrder (current given : Word)
  deriving DecidableEq, Repr

/-- The text of an error. -/
def Error.message : Error → String
  | blobCount expected given => s!"tx declares {expected} blobs but {given} were provided"
  | outOfOrder current given => s!"tx at block {given} pushed after block {current}"

/-- Before the first transaction. -/
def new (timeout : Word) : Intake := ⟨.new timeout, none, []⟩

/-- The number of open channels. -/
def openCount (s : Intake) : Nat := s.table.openCount

/-- Reaches a block, and gives up the channels that have timed out there. -/
def moveTo (s : Intake) (block : Word) : Intake :=
  let (expired, table) := s.table.expire block
  ⟨table, some block, s.dropped ++ expired⟩

/-- Goes on to a block, which must not lie behind. -/
def advance (s : Intake) (block : Word) : Except Error Unit × Intake :=
  match s.block? with
  | none => (.ok (), s.moveTo block)
  | some current =>
    if block < current then (.error (.outOfOrder current block), s)
    else if block = current then (.ok (), s)
    else (.ok (), s.moveTo block)

/-- Takes frames of one transaction; `closed` holds the channels that earlier ones completed. -/
def takeFrames (source : L1Position) (closed : List ClosedChannel) (table : ChannelTable) :
    List Frame → List ClosedChannel × ChannelTable
  | [] => (closed, table)
  | f :: frames =>
    match table.add f source with
    | (.ok (some done), table) => takeFrames source (closed ++ [done]) table frames
    | (_, table) => takeFrames source closed table frames

/-- Closed channels by ascending id; those with one id stay as they are. -/
def sortById (closed : List ClosedChannel) : List ClosedChannel :=
  closed.mergeSort fun a b => (compare a.id b.id).isLE

/-- Takes a transaction and its blobs, which are ignored if its payloads are in its calldata: the
channels that it completes, by ascending id. -/
def push (s : Intake) (tx : InboxTx) (blobs : List Blob) :
    Except Error (List ClosedChannel) × Intake :=
  match s.advance tx.block with
  | (.error e, s) => (.error e, s)
  | (.ok (), s) =>
    if tx.payloadSource = .blobs ∧ blobs.length ≠ tx.blobHashes.length then
      (.error (.blobCount tx.blobHashes.length blobs.length), s)
    else
      let (closed, table) := takeFrames tx.position [] s.table (tx.frames blobs)
      (.ok (sortById closed), { s with table })

/-- All channels that were given up, with those that are open when there is nothing more to read
after the given block. -/
def close (s : Intake) (block : Word) : List DroppedChannel :=
  let last :=
    match s.block? with
    | none => block
    | some current => if current ≤ block then block else current
  let (expired, table) := s.table.expire last
  s.dropped ++ expired ++ (table.finish last).1

end Intake
end BatchInbox
