import BatchInbox.L1.Source
import BatchInbox.Resolve.Error

/-!
# The window of L1 blocks

A batch for an L2 block is posted around the time of that block, so it is enough to read the L1
blocks of a window of time.  Its first and last block are found by halving.

Nothing is assumed about the times of blocks: for any times, halving ends between two neighbours of
which one is on either side.

## What is here

* `requestTimes` — the times of the first and the last L2 block.
* `bisect` — halves a range of blocks; `lastAtOrBefore`, `firstAtOrAfter` — the ends of the window.
-/

set_option autoImplicit false
namespace BatchInbox

/-- The times of the first and the last L2 block of a request. -/
def requestTimes (c : Rollup) (start last : Word) : Except RequestError (Word × Word) :=
  if last < start then .error (.startAfterEnd start last)
  else
    match c.validate, c.timestamp start, c.timestamp last with
    | .error cause, _, _ => .error (.rollup cause)
    | _, .error cause, _ => .error (.rollup cause)
    | _, _, .error cause => .error (.rollup cause)
    | _, .ok first, .ok last => .ok (first, last)

section
variable {σ ε : Type}

/-- Halves the blocks from `low` to `high` until they are neighbours.  A block in the middle takes
the place of `low` if `isLow` says so, and of `high` otherwise. -/
def bisect (isLow : Nat → Effect σ ε Bool) (low high : Nat) : Effect σ ε (Nat × Nat) := do
  if _h : 1 < high - low then
    if ← isLow (low + (high - low) / 2) then bisect isLow (low + (high - low) / 2) high
    else bisect isLow low (low + (high - low) / 2)
  else return (low, high)
  termination_by high - low
  decreasing_by all_goals omega

/-- The time of a block. -/
def timeOf (source : L1Source σ) (number : Nat) : Effect σ RpcError Word := do
  return (← source.header number.toUInt64).timestamp

/-- The last block up to `head` whose time is not behind `time`, or block 0. -/
def lastAtOrBefore (source : L1Source σ) (time : Word) (head : L1Header) :
    Effect σ RpcError Word := do
  if head.timestamp ≤ time then return head.number
  let (low, _) ← bisect (fun n => do return (← timeOf source n) ≤ time) 0 head.number.toNat
  return low.toUInt64

/-- The first block whose time is not before `time`, or `head`. -/
def firstAtOrAfter (source : L1Source σ) (time : Word) (head : L1Header) :
    Effect σ RpcError Word := do
  if head.timestamp ≤ time then return head.number
  if time ≤ (← timeOf source 0) then return 0
  let (_, high) ← bisect (fun n => do return (← timeOf source n) < time) 0 head.number.toNat
  return high.toUInt64

end

end BatchInbox
