import BatchInbox.Partition
import BatchInbox.Resolve.Scan
import BatchInbox.Resolve.Window

/-!
# Resolving a range of L2 blocks

A range of L2 blocks is resolved into the ranges that single batches cover: the window of L1 blocks
in question is read, the channels that close there are decoded, and their batches get their blocks.

## What is here

* `ResolveSettings`, `Resolution` — what a request may choose, and its result.
* `decodeChannels` — the coverage of channels, and a warning for each one that has none.
* `resolve`.
-/

set_option autoImplicit false
namespace BatchInbox

/-- What a request may choose. -/
structure ResolveSettings where
  /-- The window is wider by so many seconds at either end, within the sequencing window. -/
  safetyMargin : Word
  /-- How many blocks are fetched ahead. -/
  concurrency : Nat
  /-- It is an error if some block is not covered. -/
  isStrict : Bool
  /-- The limit for the decompressed data of a channel. -/
  maxChannelSize : Word
  deriving DecidableEq, Repr

/-- The usual settings. -/
def ResolveSettings.default : ResolveSettings :=
  ⟨3600, 16, false, ClosedChannel.defaultLimit⟩

/-- The result of a request. -/
structure Resolution where
  /-- Disjoint ranges by ascending blocks. -/
  ranges : List BlockRange
  warnings : List ResolveWarning
  /-- The first L1 block that was read. -/
  l1Start : Word
  /-- The last L1 block that was read. -/
  l1End : Word
  deriving DecidableEq

/-! ## Warnings -/

/-- A channel that timed out.  One that was open at the end of the window may be for later blocks,
and is no reason to warn. -/
def dropWarning? (d : DroppedChannel) : Option ResolveWarning :=
  match d.reason with
  | .timedOut => some (.channelTimeout d.id d.firstSeen)
  | .unclosed => none

/-- A channel that stands for no blocks. -/
def decodeWarning (c : ClosedChannel) : Coverage.Error → ResolveWarning
  | .tooLarge limit => .channelTooLarge c.id limit
  | cause => .batchDecode c.id cause

/-- Blocks that were not given to a batch. -/
def overlapWarning (o : Overlap) : ResolveWarning :=
  .overlapDetected o.kept o.dropped o.isDuplicate

/-- The coverage of channels, and a warning for each one that has none.  If the program stops at one
of them, it does not matter which. -/
def decodeChannels (c : Rollup) (limit : Word) :
    List ClosedChannel → Except ResolveError (List Coverage × List ResolveWarning)
  | [] => .ok ([], [])
  | channel :: channels =>
    match decodeChannels c limit channels with
    | .error e => .error e
    | .ok (coverage, warnings) =>
      match channel.coverage c limit with
      | .ok covered => .ok (covered ++ coverage, warnings)
      | .error .overflow => .error .overflow
      | .error cause => .ok (coverage, decodeWarning channel cause :: warnings)

/-! ## Requests -/

section
variable {σ : Type}

/-- The window of L1 blocks to read for L2 blocks of the given times. -/
def findWindow (u : Endpoints σ) (settings : ResolveSettings) (c : Rollup) (times : Word × Word) :
    Effect (Session σ) ResolveError (Word × Word) := do
  let head ← u.unlessCancelled (onWorld (u.l1.finalized.mapError .l1Fetch))
  let margin := BlockRange.earlier settings.safetyMargin c.sequencingWindowSeconds
  let first ← u.unlessCancelled
    (onWorld ((lastAtOrBefore u.l1 (Word.subSat times.1 margin) head).mapError .l1Fetch))
  let latest := Word.addSat (Word.addSat times.2 margin) c.channelTimeoutSeconds
  let last ← u.unlessCancelled
    (onWorld ((firstAtOrAfter u.l1 latest head).mapError .l1Fetch))
  return (first, last)

/-- The result for the channels of a window. -/
def assemble (settings : ResolveSettings) (c : Rollup) (request window : BlockRange)
    (closed : List ClosedChannel) (dropped : List DroppedChannel) :
    Except ResolveError Resolution :=
  match decodeChannels c settings.maxChannelSize closed with
  | .error e => .error e
  | .ok (coverage, warnings) =>
    let partition := Partition.ofCoverages coverage request
    let missing := BlockRange.gaps partition.ranges request
    if settings.isStrict ∧ missing ≠ [] then .error (.coverageGap missing)
    else
      .ok {
        ranges := partition.ranges
        warnings :=
          dropped.filterMap dropWarning? ++ warnings ++ partition.overlaps.map overlapWarning
        l1Start := window.first
        l1End := window.last }

/-- Resolves the L2 blocks from `start` to `last`. -/
def resolve (u : Endpoints σ) (settings : ResolveSettings) (c : Rollup) (start last : Word) :
    Effect (Session σ) ResolveError Resolution := do
  match requestTimes c start last with
  | .error cause => throw (.invalidRequest cause)
  | .ok times =>
    let (first, final) ← findWindow u settings c times
    let (closed, dropped) ← scan u c settings.concurrency first final
    match assemble settings c ⟨start, last⟩ ⟨first, final⟩ closed dropped with
    | .error e => throw e
    | .ok resolution => return resolution

end

end BatchInbox
