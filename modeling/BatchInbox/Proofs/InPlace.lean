import BatchInbox.Proofs.Accounting
import BatchInbox.Proofs.Effect
import BatchInbox.Proofs.TableRun

/-!
# Working in place

The table and the intake are given as functions, and when they refuse something they give back the
state that they were given.  A program that works in place has nothing to give back.  It makes an entry
for a channel before it knows what becomes of the frame, tells the channel its last number before frames
behind that are thrown away, and goes on to the block of a transaction before it counts the blobs.

Done in this order, step by step on a state that survives an error, it comes to the same.  So a frame
that is refused leaves no entry and no number behind, and whatever is asked next is answered as if the
frame had not come.  A transaction leaves one thing behind when it has the wrong number of blobs: its
block has been reached.

## What is here

* `OpenChannel.takeInPlace`, `ChannelTable.addInPlace`, `Intake.advanceInPlace`, `Intake.pushInPlace` —
  what is done, step by step.
* `OpenChannel.step_takeInPlace`, `ChannelTable.step_addInPlace`, `Intake.step_advanceInPlace`,
  `Intake.step_pushInPlace` — it comes to the same.
* `Intake.forgetsRefused_after` — what a refusal leaves behind, in every state that a run reaches.
-/

set_option autoImplicit false
namespace BatchInbox

/-! ## A channel -/

namespace OpenChannel

/-- Takes a frame in place. -/
def takeInPlace (f : Frame) : Effect OpenChannel ChannelError Unit := do
  if (← get).frames.any (·.number = f.number) then throw (.duplicateFrame f.number)
  if let some last := (← get).last? then
    if f.isLast then throw (.secondLast last)
    if last < f.number then throw (.frameAfterLast f.number last)
  if f.isLast then
    modify fun c => { c with last? := some f.number }
    modify fun c => { c with frames := c.frames.filter (·.number < f.number) }
  modify fun c => { c with frames := insertFrame f c.frames }

/-- All checks come before the first change. -/
theorem step_takeInPlace (c : OpenChannel) (f : Frame) :
    (takeInPlace f).step c =
      match c.add f with
      | .ok c' => (.ok (), c')
      | .error e => (.error e, c) := by
  obtain ⟨first, frames, last?⟩ := c
  simp only [takeInPlace, add]
  by_cases hduplicate : frames.any (·.number = f.number) = true
  · rw [if_pos hduplicate]
    simp only [Effect.step_bind, Effect.step_get, if_pos hduplicate, Effect.step_throw]
  · rw [if_neg hduplicate]
    simp only [Effect.step_bind, Effect.step_get, if_neg hduplicate]
    cases last? with
    | none =>
      cases hf : f.isLast
      · simp
      · simp [Effect.step_bind]
    | some last =>
      cases hf : f.isLast
      · by_cases hlt : last < f.number <;> simp [hlt]
      · simp

end OpenChannel

/-! ## The table -/

namespace ChannelTable
variable {t : ChannelTable} {id : ChannelId}

/-- Closes a channel in place, if it is complete. -/
def closeInPlace (id : ChannelId) (source : L1Position) :
    Effect ChannelTable ChannelError (Option ClosedChannel) := do
  match (← get).find? id with
  | some (.open c) =>
    if c.isComplete then
      modify (·.erase id)
      return some (c.close id source)
    else return none
  | _ => return none

/-- Gives a frame to the entry of its channel in place. -/
def giveInPlace (f : Frame) (source : L1Position) :
    Effect ChannelTable ChannelError (Option ClosedChannel) := do
  match (← get).find? f.channel with
  | some (.open c) =>
    (OpenChannel.takeInPlace f).zoom (fun _ => c) fun c t => t.set f.channel (.open c)
    closeInPlace f.channel source
  | _ => throw .timedOut

/-- Takes a frame in place.  First of all its channel has an entry. -/
def addInPlace (f : Frame) (source : L1Position) :
    Effect ChannelTable ChannelError (Option ClosedChannel) := do
  if ((← get).find? f.channel).isNone then
    modify (·.set f.channel (.open (.new source.block)))
  giveInPlace f source

theorem setEntry_setEntry (id : ChannelId) (entry entry' : Entry)
    (entries : List (ChannelId × Entry)) :
    setEntry id entry' (setEntry id entry entries) = setEntry id entry' entries := by
  induction entries with
  | nil => simp [setEntry]
  | cons e entries ih =>
    rw [setEntry]
    cases hid : compare id e.1 with
    | lt => simp [setEntry, hid]
    | eq => simp [setEntry, hid]
    | gt => simp [setEntry, hid, ih]

/-- Of two entries that are set for a channel the second one counts. -/
@[simp]
theorem set_set (t : ChannelTable) (id : ChannelId) (entry entry' : Entry) :
    (t.set id entry).set id entry' = t.set id entry' :=
  congrArg (ChannelTable.mk t.timeout) (setEntry_setEntry id entry entry' t.entries)

theorem Ascending.setEntry_eq_self {entry : Entry} {entries : List (ChannelId × Entry)}
    (h : Ascending entries) (hmem : (id, entry) ∈ entries) :
    ChannelTable.setEntry id entry entries = entries := by
  induction entries with
  | nil => exact absurd hmem List.not_mem_nil
  | cons e entries ih =>
    obtain ⟨hlater, hentries⟩ := List.pairwise_cons.1 h
    rw [ChannelTable.setEntry]
    rcases List.mem_cons.1 hmem with rfl | hmem
    · rw [BytesN.compare_self]
    · rw [Std.OrientedCmp.gt_of_lt (hlater _ hmem), ih hentries hmem]

/-- To set the entry that a channel has changes nothing. -/
theorem IsAscending.set_eq_self (h : t.IsAscending) {entry : Entry}
    (hfind : t.find? id = some entry) : t.set id entry = t :=
  congrArg (ChannelTable.mk t.timeout) (Ascending.setEntry_eq_self h (mem_of_find? hfind))

/-- A channel that has an entry is given the frame, and the entry is set whether it takes it or not. -/
theorem step_giveInPlace (h : t.IsAscending) {f : Frame} {c : OpenChannel}
    (hopen : t.find? f.channel = some (.open c)) (source : L1Position) :
    (giveInPlace f source).step t = t.addTo c f source := by
  simp only [giveInPlace, Effect.step_bind, Effect.step_get, hopen, Effect.step_zoom,
    OpenChannel.step_takeInPlace, addTo]
  cases c.add f with
  | error e => simp only [h.set_eq_self hopen]
  | ok c' =>
    simp only [closeInPlace, Effect.step_bind, Effect.step_get, find?_set_self]
    cases hcomplete : c'.isComplete <;> simp [Effect.step_map, Except.map]

/-- **The table in place.**  A channel that has no entry takes whatever it begins with, so the entry that
is made for it is never one that stays empty. -/
theorem step_addInPlace (h : t.IsAscending) (f : Frame) (source : L1Position) :
    (addInPlace f source).step t = t.add f source := by
  simp only [addInPlace, Effect.step_bind, Effect.step_get]
  rcases hfind : t.find? f.channel with _ | c | first
  · have hset : (t.set f.channel (.open (.new source.block))).IsAscending :=
      Ascending.setEntry h f.channel _
    obtain ⟨c', hc'⟩ := OpenChannel.add_new source.block f
    simp [Effect.step_bind, step_giveInPlace hset (find?_set_self ..), add, hfind, addTo, hc']
  · simp [step_giveInPlace h hfind, add, hfind]
  · simp [giveInPlace, Effect.step_bind, add, hfind]

end ChannelTable

/-! ## The intake -/

namespace Intake
open ChannelTable (addInPlace step_addInPlace)

variable {ε : Type} {s : Intake} {t : ChannelTable}

/-- Goes on to a block in place. -/
def advanceInPlace (block : Word) : Effect Intake Error Unit := do
  match (← get).block? with
  | some current =>
    if block < current then throw (.outOfOrder current block)
    if block = current then return
  | none => pure ()
  modify fun s => { s with block? := some block }
  modify fun s =>
    { s with table := (s.table.expire block).2, dropped := s.dropped ++ (s.table.expire block).1 }

/-- Takes frames of one transaction in place. -/
def takeFramesInPlace (source : L1Position) (closed : List ClosedChannel) :
    List Frame → Effect ChannelTable ε (List ClosedChannel)
  | [] => return closed
  | f :: frames => do
    match ← (addInPlace f source).attempt with
    | .ok (some done) => takeFramesInPlace source (closed ++ [done]) frames
    | _ => takeFramesInPlace source closed frames

/-- Takes payloads of one transaction in place, without those that are malformed. -/
def takePayloadsInPlace (source : L1Position) (closed : List ClosedChannel) :
    List Bytes → Effect ChannelTable ε (List ClosedChannel)
  | [] => return closed
  | payload :: payloads => do
    match Frame.decodeAll payload with
    | .error _ => takePayloadsInPlace source closed payloads
    | .ok frames =>
      let closed ← takeFramesInPlace source closed frames
      takePayloadsInPlace source closed payloads

/-- Takes a transaction and its blobs in place. -/
def pushInPlace (tx : InboxTx) (blobs : List Blob) : Effect Intake Error (List ClosedChannel) := do
  advanceInPlace tx.block
  if tx.payloadSource = .blobs ∧ blobs.length ≠ tx.blobHashes.length then
    throw (.blobCount tx.blobHashes.length blobs.length)
  let closed ← (takePayloadsInPlace tx.position [] (tx.payloads blobs)).zoom (·.table)
    fun table s => { s with table }
  return sortById closed

theorem step_advanceInPlace (s : Intake) (block : Word) :
    (advanceInPlace block).step s = s.advance block := by
  simp only [advanceInPlace, advance, Effect.step_bind, Effect.step_get]
  cases s.block? with
  | none => simp [Effect.step_bind, moveTo]
  | some current =>
    by_cases hlt : block < current
    · simp [hlt]
    · by_cases heq : block = current
      · simp [heq]
      · simp [Effect.step_bind, hlt, heq, moveTo]

theorem step_takeFramesInPlace (h : t.IsAscending) (source : L1Position)
    (closed : List ClosedChannel) (frames : List Frame) :
    (takeFramesInPlace source closed frames : Effect ChannelTable ε _).step t =
      (.ok (takeFrames source closed t frames).1, (takeFrames source closed t frames).2) := by
  induction frames generalizing t closed with
  | nil => rfl
  | cons f frames ih =>
    have hascending := h.add f source
    simp only [takeFramesInPlace, takeFrames, Effect.step_bind, Effect.step_attempt,
      step_addInPlace h]
    rcases hadd : t.add f source with ⟨e | (_ | done), t'⟩ <;> rw [hadd] at hascending <;>
      exact ih hascending _

theorem takeFrames_append (source : L1Position) (closed : List ClosedChannel) (t : ChannelTable)
    (frames frames' : List Frame) :
    takeFrames source closed t (frames ++ frames') =
      takeFrames source (takeFrames source closed t frames).1
        (takeFrames source closed t frames).2 frames' := by
  induction frames generalizing closed t with
  | nil => rfl
  | cons f frames ih =>
    rw [List.cons_append, takeFrames_cons, takeFrames_cons, ih]

theorem step_takePayloadsInPlace (h : t.IsAscending) (source : L1Position)
    (closed : List ClosedChannel) (payloads : List Bytes) :
    (takePayloadsInPlace source closed payloads : Effect ChannelTable ε _).step t =
      (.ok (takeFrames source closed t
          (payloads.flatMap fun payload => (Frame.decodeAll payload).toOption.getD [])).1,
        (takeFrames source closed t
          (payloads.flatMap fun payload => (Frame.decodeAll payload).toOption.getD [])).2) := by
  induction payloads generalizing t closed with
  | nil => rfl
  | cons payload payloads ih =>
    rw [takePayloadsInPlace, List.flatMap_cons]
    cases Frame.decodeAll payload with
    | error e => exact ih h closed
    | ok frames =>
      have htaken := (takeFrames_invariant h source closed frames).1
      simp only [Effect.step_bind, step_takeFramesInPlace h]
      rw [ih htaken]
      simp [takeFrames_append, Except.toOption]

theorem isAscending_advance (h : s.table.IsAscending) (block : Word) :
    (s.advance block).2.table.IsAscending := by
  rcases s.advance_cases block with ⟨e, _, -, -, hadvance⟩ | ⟨-, hadvance⟩ | ⟨-, hadvance⟩ <;>
    rw [hadvance]
  · exact h
  · exact h
  · exact h.expire block

/-- Every run leaves the table in the order of the ids. -/
theorem isAscending_journal (timeout : Word) (calls : List Call) :
    ((new timeout).journal calls).intake.table.IsAscending := by
  have hkept : IsKept fun _ _ => True := ⟨fun _ _ _ _ => trivial, fun _ _ _ _ _ => trivial⟩
  exact (hkept.journal calls (ChannelTable.isAscending_new timeout) trivial).2

/-- **The intake in place.** -/
theorem step_pushInPlace (h : s.table.IsAscending) (tx : InboxTx) (blobs : List Blob) :
    (pushInPlace tx blobs).step s = s.push tx blobs := by
  simp only [pushInPlace, push, Effect.step_bind, step_advanceInPlace]
  have hascending := isAscending_advance h tx.block
  generalize s.advance tx.block = advanced at hascending
  obtain ⟨e | ⟨⟩, s'⟩ := advanced
  · rfl
  · simp only
    split
    · rfl
    · simp only [Effect.step_bind, Effect.step_zoom, step_takePayloadsInPlace hascending]
      rfl

/-! ## Refusals -/

/-- A block that is refused lies behind, and is not reached. -/
theorem advance_error {s' : Intake} {block : Word} {e : Error}
    (h : s.advance block = (.error e, s')) :
    (∃ current, e = .outOfOrder current block) ∧ s' = s := by
  rw [advance] at h
  split at h
  · cases h
  · rename_i current hcurrent
    split at h
    · cases h
      exact ⟨⟨current, rfl⟩, rfl⟩
    · split at h <;> cases h

/-- A transaction is refused for its block, which is not reached, or for its blobs, when its block has
been. -/
theorem push_error {s' : Intake} {tx : InboxTx} {blobs : List Blob} {e : Error}
    (h : s.push tx blobs = (.error e, s')) :
    (∃ current, e = .outOfOrder current tx.block) ∧ s' = s ∨
      e = .blobCount tx.blobHashes.length blobs.length ∧ s.advance tx.block = (.ok (), s') := by
  rw [push] at h
  rcases hadvance : s.advance tx.block with ⟨e | ⟨⟩, s₁⟩ <;> rw [hadvance] at h
  · cases h
    exact .inl (advance_error hadvance)
  · simp only at h
    split at h <;> cases h
    exact .inr ⟨rfl, rfl⟩

end Intake

/-- The table works in place, and forgets what it refuses. -/
structure ChannelTable.ForgetsRefused (t : ChannelTable) : Prop where
  inPlace : ∀ f source, (addInPlace f source).step t = t.add f source
  unchanged : ∀ f source e t', (addInPlace f source).step t = (.error e, t') → t' = t
  /-- Whatever comes next comes as if the frame had not been there. -/
  continues : ∀ f source e t', (addInPlace f source).step t = (.error e, t') →
    ∀ {ε α : Type} (next : Effect ChannelTable ε α),
      ((addInPlace f source).attempt >>= fun _ => next).step t = next.step t

/-- The intake works in place, and forgets what it refuses, but for the block of a transaction with the
wrong number of blobs. -/
structure Intake.ForgetsRefused (s : Intake) : Prop where
  inPlace : ∀ tx blobs, (pushInPlace tx blobs).step s = s.push tx blobs
  outOfOrder : ∀ tx blobs current given s',
    (pushInPlace tx blobs).step s = (.error (.outOfOrder current given), s') → s' = s
  blobCount : ∀ tx blobs expected given s',
    (pushInPlace tx blobs).step s = (.error (.blobCount expected given), s') →
      (advanceInPlace tx.block).step s = (.ok (), s')

theorem ChannelTable.IsAscending.forgetsRefused {t : ChannelTable} (h : t.IsAscending) :
    t.ForgetsRefused := by
  have hunchanged : ∀ f source e t', (addInPlace f source).step t = (.error e, t') → t' = t := by
    intro f source e t' hrefused
    rw [step_addInPlace h] at hrefused
    rcases t.add_cases f source with ⟨e', -, hadd⟩ | ⟨c, c', -, -, ⟨-, hadd⟩ | ⟨-, hadd⟩⟩ <;>
      cases hrefused.symm.trans hadd
    rfl
  refine ⟨step_addInPlace h, hunchanged, fun f source e t' hrefused _ _ next => ?_⟩
  rw [Effect.step_bind, Effect.step_attempt, hrefused, hunchanged f source e t' hrefused]

theorem Intake.forgetsRefused {s : Intake} (h : s.table.IsAscending) : s.ForgetsRefused := by
  refine ⟨step_pushInPlace h, fun tx blobs current given s' hrefused => ?_,
    fun tx blobs expected given s' hrefused => ?_⟩ <;> rw [step_pushInPlace h] at hrefused
  · rcases push_error hrefused with ⟨-, hsame⟩ | ⟨he, -⟩
    · exact hsame
    · exact absurd he nofun
  · rcases push_error hrefused with ⟨⟨current, he⟩, -⟩ | ⟨-, hadvance⟩
    · exact absurd he nofun
    · rw [step_advanceInPlace, hadvance]

/-- **Refusals leave no trace**, in whatever state a run leaves the table or the intake. -/
theorem forgetsRefused_after (timeout : Word) :
    (∀ calls, ((ChannelTable.new timeout).after calls).ForgetsRefused) ∧
      ∀ calls, ((Intake.new timeout).journal calls).intake.ForgetsRefused :=
  ⟨fun calls => ((ChannelTable.isAscending_new timeout).after calls).forgetsRefused,
    fun calls => Intake.forgetsRefused (Intake.isAscending_journal timeout calls)⟩

/-- A frame without data, in a channel whose id is one byte over and over. -/
def emptyFrame (byte : UInt8) (number : UInt16) (isLast : Bool) : Frame :=
  ⟨⟨List.replicate 16 byte, rfl⟩, number, [], isLast⟩

/-- A run behind which one channel misses a frame, and another one has timed out. -/
def unfinishedRun : List ChannelTable.Call :=
  [.add (emptyFrame 8 0 false) ⟨3, 0⟩, .add (emptyFrame 7 0 false) ⟨12, 0⟩,
    .add (emptyFrame 7 2 true) ⟨13, 0⟩, .expire 14]

/-- Frames that are refused there, each for a different reason. -/
def unwantedFrames : List Frame :=
  [emptyFrame 7 0 false, emptyFrame 7 1 true, emptyFrame 7 3 false, emptyFrame 8 1 true]

/-- A transaction with blobs. -/
def blobTx (block : Word) (hashes : List Hash) : InboxTx :=
  ⟨block, 0, 0, BytesN.zero 32, BytesN.zero 20, BytesN.zero 20, InboxTx.blobType, [], hashes, []⟩

theorem forgetsRefused_after_unfinishedRun :
    (unwantedFrames.map fun f => (((ChannelTable.new 10).after unfinishedRun).add f ⟨14, 0⟩).1) =
        [.error (.duplicateFrame 0), .error (.secondLast 2), .error (.frameAfterLast 3 2),
          .error .timedOut] ∧
      (((Intake.new 10).journal [.advance 14]).intake.push (blobTx 13 []) []).1 =
        .error (.outOfOrder 14 13) ∧
      (((Intake.new 10).journal [.advance 14]).intake.push (blobTx 15 [BytesN.zero 32]) []).1 =
        .error (.blobCount 1 0) ∧
      ((ChannelTable.new 10).after unfinishedRun).ForgetsRefused ∧
      ((Intake.new 10).journal [.advance 14]).intake.ForgetsRefused :=
  ⟨by cbv, by cbv, by cbv, (forgetsRefused_after 10).1 unfinishedRun,
    (forgetsRefused_after 10).2 [.advance 14]⟩

end BatchInbox
