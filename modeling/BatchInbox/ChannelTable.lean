import BatchInbox.Channel

/-!
# The table of channels

Frames of many channels arrive interleaved.  The table has an entry for every channel that has
begun: the channel itself while it is open, and a mark when it has timed out, so that a late frame
does not begin it anew.  A channel that closes leaves the table.

Marks go after as long again as the timeout, and then the id may be used for another channel.

## What is here

* `ChannelTable`, `ChannelTable.Entry` — the table, by id.
* `add` — takes a frame, and closes the channel that it completes.
* `expire` — gives up the channels that are open for too long; `finish` — those that remain.
-/

set_option autoImplicit false
namespace BatchInbox

/-- What the table knows about a channel. -/
inductive ChannelTable.Entry where
  | open (channel : OpenChannel)
  | timedOut (firstSeen : Word)
  deriving DecidableEq

/-- The channels that have begun. -/
structure ChannelTable where
  /-- How many L1 blocks a channel may stay open. -/
  timeout : Word
  /-- By ascending id. -/
  entries : List (ChannelId × ChannelTable.Entry)
  deriving DecidableEq

namespace ChannelTable

/-- The table without channels. -/
def new (timeout : Word) : ChannelTable := ⟨timeout, []⟩

/-- The open channel of an entry. -/
def Entry.open? : Entry → Option OpenChannel
  | .open c => some c
  | .timedOut _ => none

/-- What the table knows about a channel. -/
def find? (t : ChannelTable) (id : ChannelId) : Option Entry := t.entries.lookup id

/-- The number of open channels. -/
def openCount (t : ChannelTable) : Nat := t.entries.countP fun e => e.2.open?.isSome

/-- Sets the entry of a channel in a list by ascending id. -/
def setEntry (id : ChannelId) (entry : Entry) :
    List (ChannelId × Entry) → List (ChannelId × Entry)
  | [] => [(id, entry)]
  | e :: entries =>
    match compare id e.1 with
    | .lt => (id, entry) :: e :: entries
    | .eq => (id, entry) :: entries
    | .gt => e :: setEntry id entry entries

/-- Sets the entry of a channel. -/
def set (t : ChannelTable) (id : ChannelId) (entry : Entry) : ChannelTable :=
  { t with entries := setEntry id entry t.entries }

/-- Removes the entry of a channel. -/
def erase (t : ChannelTable) (id : ChannelId) : ChannelTable :=
  { t with entries := t.entries.filter (·.1 ≠ id) }

/-- Gives a frame to an open channel, which leaves the table if that completes it. -/
def addTo (t : ChannelTable) (c : OpenChannel) (f : Frame) (source : L1Position) :
    Except ChannelError (Option ClosedChannel) × ChannelTable :=
  match c.add f with
  | .error e => (.error e, t)
  | .ok c =>
    if c.isComplete then (.ok (some (c.close f.channel source)), t.erase f.channel)
    else (.ok none, t.set f.channel (.open c))

/-- Takes a frame from the transaction at `source`: the channel that it completes, if it does, and
the table behind it. -/
def add (t : ChannelTable) (f : Frame) (source : L1Position) :
    Except ChannelError (Option ClosedChannel) × ChannelTable :=
  match t.find? f.channel with
  | some (.timedOut _) => (.error .timedOut, t)
  | some (.open c) => t.addTo c f source
  | none => t.addTo (.new source.block) f source

/-! ## Giving up -/

/-- The mark of a timed-out channel still stands. -/
def Entry.isCurrent (timeout block : Word) : Entry → Bool
  | .open _ => true
  | .timedOut firstSeen => block ≤ Word.addSat firstSeen (Word.mulSat timeout 2)

/-- The entry after the check for a timeout. -/
def Entry.expire (timeout block : Word) : Entry → Entry
  | .open c => if c.isTimedOut block timeout then .timedOut c.firstSeen else .open c
  | entry => entry

/-- The channel that a check for a timeout gives up. -/
def expired? (timeout block : Word) : ChannelId × Entry → Option DroppedChannel
  | (id, .open c) => if c.isTimedOut block timeout then some (c.drop id .timedOut) else none
  | (_, .timedOut _) => none

/-- Gives up the open channels that have timed out at a block, and forgets the marks that have
stood for long enough. -/
def expire (t : ChannelTable) (block : Word) : List DroppedChannel × ChannelTable :=
  (t.entries.filterMap (expired? t.timeout block),
    { t with
      entries := (t.entries.map fun e => (e.1, e.2.expire t.timeout block)).filter
        (·.2.isCurrent t.timeout block) })

/-- The channel that is given up when there is nothing more to read. -/
def unclosed? (timeout block : Word) : ChannelId × Entry → Option DroppedChannel
  | (id, .open c) => some (c.drop id (if c.isTimedOut block timeout then .timedOut else .unclosed))
  | (_, .timedOut _) => none

/-- Gives up all channels that are open at the last block. -/
def finish (t : ChannelTable) (block : Word) : List DroppedChannel × ChannelTable :=
  (t.entries.filterMap (unclosed? t.timeout block), .new t.timeout)

end ChannelTable
end BatchInbox
