import BatchInbox.Batch
import BatchInbox.Channel

/-!
# What a channel covers

A closed channel decompresses to a row of batches, and each batch stands for some L2 blocks.  A
channel with anything malformed in it stands for none.

## What is here

* `ClosedChannel.batches` — the batches of a channel.
* `Coverage` — the blocks of a batch, and where it was found.
* `ClosedChannel.coverage` — the blocks of all batches of a channel.
-/

set_option autoImplicit false
namespace BatchInbox

/-- The L2 blocks of a batch, and where it was found. -/
structure Coverage where
  range : BlockRange
  type : BatchType
  channel : ChannelId
  /-- The transaction that completed the channel. -/
  closedAt : L1Position
  /-- The place of the batch in its channel. -/
  index : Nat
  deriving DecidableEq

/-- Why a channel stands for no blocks. -/
inductive Coverage.Error where
  | tooLarge (limit : Word)
  | decompress (cause : Compression.Error)
  | batch (index : Nat) (cause : Batch.Error)
  /-- The program has stopped when the channel was decompressed. -/
  | overflow
  deriving DecidableEq, Repr

/-- The text of an error. -/
def Coverage.Error.message : Coverage.Error → String
  | tooLarge limit => (Compression.Error.tooLarge limit).message
  | decompress cause => s!"decompression failed: {cause.message}"
  | batch index cause => s!"batch {index}: {cause.message}"
  | overflow => Compression.Error.overflow.message

/-- An error of decompression. -/
def Coverage.Error.ofCompression : Compression.Error → Coverage.Error
  | .tooLarge limit => .tooLarge limit
  | .overflow => .overflow
  | cause@.empty | cause@(.unknownType _) | cause@(.corrupt _ _) => .decompress cause

namespace ClosedChannel

/-- The usual limit for the decompressed data of a channel. -/
def defaultLimit : Word := 10 * 1024 * 1024

/-- The batches of a channel, if they are all well-formed. -/
def batches (c : ClosedChannel) (limit : Word) : Except Coverage.Error (List Batch) :=
  match Compression.decompress c.data limit with
  | .error cause => .error (.ofCompression cause)
  | .ok content =>
    match Batch.decodeStream content with
    | (read, some cause) => .error (.batch read.length cause)
    | (read, none) => .ok read

/-- The blocks of batches, the first of which has the given index. -/
def coverageOf (c : ClosedChannel) (config : Rollup) :
    (index : Nat) → List Batch → Except Coverage.Error (List Coverage)
  | _, [] => .ok []
  | index, b :: batches =>
    match b.blocks config with
    | .error cause => .error (.batch index cause)
    | .ok range =>
      match coverageOf c config (index + 1) batches with
      | .error e => .error e
      | .ok coverage => .ok (⟨range, b.type, c.id, c.closedAt, index⟩ :: coverage)

/-- The blocks of all batches of a channel. -/
def coverage (c : ClosedChannel) (config : Rollup) (limit : Word) :
    Except Coverage.Error (List Coverage) :=
  match c.batches limit with
  | .error e => .error e
  | .ok batches => coverageOf c config 0 batches

end ClosedChannel
end BatchInbox
