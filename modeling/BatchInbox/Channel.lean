import BatchInbox.Compression
import BatchInbox.Frame
import BatchInbox.InboxTx

/-!
# Channels

A channel collects frames, in any order, until it has all of them: the last one, which says so, and
one for each smaller number.  Then it closes, and its data is that of the frames in the order of
their numbers.

## What is here

* `OpenChannel` — a channel that still waits for frames; `OpenChannel.add`, `isComplete`, `close`.
* `ClosedChannel`, `DroppedChannel` — what becomes of it.
-/

set_option autoImplicit false
namespace BatchInbox

/-- Why a channel does not take a frame. -/
inductive ChannelError where
  | duplicateFrame (number : UInt16)
  | frameAfterLast (number last : UInt16)
  | secondLast (last : UInt16)
  | timedOut
  deriving DecidableEq, Repr

/-- The text of an error. -/
def ChannelError.message : ChannelError → String
  | duplicateFrame number => s!"duplicate frame {number}"
  | frameAfterLast number last => s!"frame {number} arrived after last frame {last}"
  | secondLast last => s!"channel already has a last frame ({last})"
  | timedOut => "channel timed out"

/-- Why a channel was given up. -/
inductive DropReason where
  /-- It was open for longer than the timeout. -/
  | timedOut
  /-- It was open, within the timeout, when there was nothing more to read. -/
  | unclosed
  deriving DecidableEq, Repr

/-- The name of a reason. -/
def DropReason.name : DropReason → String
  | timedOut => "TimedOut"
  | unclosed => "Unclosed"

/-- A channel that was given up. -/
structure DroppedChannel where
  id : ChannelId
  /-- The L1 block of the first frame. -/
  firstSeen : Word
  frameCount : Nat
  reason : DropReason
  deriving DecidableEq

/-- A channel that has all its frames. -/
structure ClosedChannel where
  id : ChannelId
  /-- The L1 block of the first frame. -/
  firstSeen : Word
  /-- The transaction with the frame that completed the channel. -/
  closedAt : L1Position
  frameCount : Nat
  /-- The data of the frames in the order of their numbers. -/
  data : Bytes
  deriving DecidableEq

/-- A channel that waits for frames. -/
structure OpenChannel where
  /-- The L1 block of the first frame. -/
  firstSeen : Word
  /-- The frames so far, by number. -/
  frames : List Frame
  /-- The number of the last frame, once it has arrived. -/
  last? : Option UInt16
  deriving DecidableEq

namespace OpenChannel

/-- A channel without frames. -/
def new (firstSeen : Word) : OpenChannel := ⟨firstSeen, [], none⟩

/-- Puts a frame before the first one with a larger number. -/
def insertFrame (f : Frame) : List Frame → List Frame
  | [] => [f]
  | g :: frames => if f.number ≤ g.number then f :: g :: frames else g :: insertFrame f frames

/-- Takes a frame.  With the last frame, those with larger numbers go. -/
def add (c : OpenChannel) (f : Frame) : Except ChannelError OpenChannel :=
  if c.frames.any (·.number = f.number) then .error (.duplicateFrame f.number)
  else
    match c.last? with
    | some last =>
      if f.isLast then .error (.secondLast last)
      else if last < f.number then .error (.frameAfterLast f.number last)
      else .ok { c with frames := insertFrame f c.frames }
    | none =>
      if f.isLast then
        let kept := c.frames.filter (·.number < f.number)
        .ok { c with frames := insertFrame f kept, last? := some f.number }
      else .ok { c with frames := insertFrame f c.frames }

/-- All frames have arrived. -/
def isComplete (c : OpenChannel) : Bool :=
  match c.last? with
  | none => false
  | some last => c.frames.length = last.toNat + 1

/-- The channel is still open more than `timeout` blocks after its first frame. -/
def isTimedOut (c : OpenChannel) (block timeout : Word) : Bool :=
  Word.addSat c.firstSeen timeout < block

/-- The channel when a transaction completes it. -/
def close (c : OpenChannel) (id : ChannelId) (closedAt : L1Position) : ClosedChannel where
  id
  firstSeen := c.firstSeen
  closedAt
  frameCount := c.frames.length
  data := c.frames.flatMap (·.data)

/-- The channel when it is given up. -/
def drop (c : OpenChannel) (id : ChannelId) (reason : DropReason) : DroppedChannel where
  id
  firstSeen := c.firstSeen
  frameCount := c.frames.length
  reason

end OpenChannel
end BatchInbox
