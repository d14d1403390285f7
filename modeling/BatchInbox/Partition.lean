import BatchInbox.Coverage

/-!
# Who covers which blocks

Several batches may cover the same block.  It belongs to the batch that was seen first on L1, and a
later one keeps what is left of its blocks.  So the blocks of a request fall into disjoint ranges,
gaps between them, and overlaps to report.

## What is here

* `BlockRange.gaps` — the blocks that no range of an ascending list covers.
* `BlockRange.splitAll` — ranges cut into pieces of limited length.
* `Partition` — disjoint ranges and overlaps; `Partition.cut` cuts a batch around the ranges that are
  taken, `Partition.claim` gives it what is left of its blocks, and `Partition.ofCoverages` does so
  for all batches in the order they were seen.
-/

set_option autoImplicit false
namespace BatchInbox

namespace BlockRange

/-! ## Gaps -/

/-- The range from one block to another, if it is not empty. -/
def between (first last : Word) : List BlockRange :=
  if first ≤ last then [⟨first, last⟩] else []

/-- The blocks from `next` on in front of a range. -/
def before (next : Word) (r : BlockRange) : List BlockRange :=
  if next < r.first then [⟨next, r.first - 1⟩] else []

/-- The blocks from `next` to `last` that no range covers. -/
def gapsFrom (next last : Word) : List BlockRange → List BlockRange
  | [] => between next last
  | r :: ranges =>
    if r.last < next then gapsFrom next last ranges
    else if last < r.first then between next last
    else
      match Word.add? r.last 1 with
      | none => before next r
      | some after => before next r ++ gapsFrom after last ranges

/-- The blocks of `bounds` that none of the ranges covers, which are ascending and disjoint. -/
def gaps (ranges : List BlockRange) (bounds : BlockRange) : List BlockRange :=
  gapsFrom bounds.first bounds.last ranges

/-! ## Pieces -/

/-- The piece of `size` blocks behind `index` others. -/
def piece (r : BlockRange) (size : Word) (index : Nat) : BlockRange :=
  let first := r.first + index.toUInt64 * size
  ⟨first, first + (size - 1)⟩

/-- A range in pieces of `size` blocks, the last of which may be shorter.  A size of zero means no
limit. -/
def split (r : BlockRange) (size : Word) : List BlockRange :=
  if size = 0 ∨ r.last < r.first then [r]
  else
    let full := (r.last - r.first) / size
    (List.range full.toNat).map (r.piece size) ++ [⟨r.first + full * size, r.last⟩]

/-- All ranges in pieces. -/
def splitAll (ranges : List BlockRange) (size : Word) : List BlockRange :=
  ranges.flatMap (·.split size)

/-- Puts a range where it belongs by its first block, in place of one with the same first block. -/
def insert (r : BlockRange) : List BlockRange → List BlockRange
  | [] => [r]
  | s :: ranges =>
    if r.first < s.first then r :: s :: ranges
    else if r.first = s.first then r :: ranges
    else s :: insert r ranges

/-- Puts all pieces where they belong. -/
def insertAll (pieces ranges : List BlockRange) : List BlockRange :=
  pieces.foldl (fun ranges piece => insert piece ranges) ranges

/-- The ranges that overlap `wanted`: those met on the way back from the last one that starts in or
before it, up to the first one that ends before it. -/
def conflicts (ranges : List BlockRange) (wanted : BlockRange) : List BlockRange :=
  ((ranges.filter (·.first ≤ wanted.last)).reverse.takeWhile (wanted.first ≤ ·.last)).reverse

end BlockRange

/-! ## Partitions -/

/-- Blocks that belong to an earlier batch. -/
structure Overlap where
  /-- The blocks that the later batch does not get. -/
  dropped : BlockRange
  droppedAt : L1Position
  /-- The range of the earlier batch. -/
  kept : BlockRange
  /-- Both are the same blocks. -/
  isDuplicate : Bool
  deriving DecidableEq

/-- Disjoint ranges by ascending blocks, and the overlaps between batches. -/
structure Partition where
  ranges : List BlockRange
  overlaps : List Overlap
  deriving DecidableEq

/-- The order in which batches are seen on L1. -/
def Coverage.seenOrder (a b : Coverage) : Ordering :=
  ((compare a.closedAt b.closedAt).then (compare a.channel b.channel)).then
    (compare a.index b.index)

namespace Partition

/-- Before the first batch. -/
def empty : Partition := ⟨[], []⟩

/-- The overlap of the blocks wanted by a batch with a range that is taken. -/
def overlap? (source : L1Position) (wanted kept : BlockRange) : Option Overlap :=
  (kept.clip? wanted).map fun dropped =>
    { dropped, droppedAt := source, kept, isDuplicate := kept = wanted }

/-- Cuts the blocks from `next` on that a batch wants around the ranges that are taken: the pieces
that are left, and the overlaps. -/
def cut (source : L1Position) (wanted : BlockRange) (next : Word) :
    List BlockRange → List BlockRange × List Overlap
  | [] => (BlockRange.between next wanted.last, [])
  | kept :: conflicts =>
    let overlaps := (overlap? source wanted kept).toList
    match Word.add? kept.last 1 with
    | none => (BlockRange.before next kept, overlaps)
    | some after =>
      let rest := cut source wanted after conflicts
      (BlockRange.before next kept ++ rest.1, overlaps ++ rest.2)

/-- Gives a batch what is left of the blocks that it wants. -/
def take (p : Partition) (source : L1Position) (wanted : BlockRange) : Partition :=
  let pieces := cut source wanted wanted.first (BlockRange.conflicts p.ranges wanted)
  ⟨BlockRange.insertAll pieces.1 p.ranges, p.overlaps ++ pieces.2⟩

/-- Gives a batch what is left of its blocks within the bounds. -/
def claim (bounds : BlockRange) (p : Partition) (c : Coverage) : Partition :=
  match c.range.clip? bounds with
  | none => p
  | some wanted => p.take c.closedAt wanted

/-- Gives all batches their blocks within the bounds, in the order they were seen. -/
def ofCoverages (coverages : List Coverage) (bounds : BlockRange) : Partition :=
  (coverages.mergeSort fun a b => (a.seenOrder b).isLE).foldl (claim bounds) empty

end Partition
end BatchInbox
