import BatchInbox.Proofs.Blob
import BatchInbox.Proofs.Fate
import Mathlib

/-!
# Channels do not disturb each other

Anyone may send frames to the inbox, under any id, and malformed payloads as well.  What becomes of
a channel depends on the frames that arrive under its own id, and on where they come from; not on
what else is read, nor on when the reading goes on from one block to another.

A run of the intake, seen from one channel, is the fate of the frames that arrive, up to a check for
timeouts at the block that has been reached.  Checks come as often as the run likes, and the laws of
`ChannelFate` say that only the last one counts.

## What is here

* `Intake.Call`, `Intake.takeAll` — a run of the intake; `Call.arrivals` — what arrives of a channel.
* `ChannelFate.ofIntake` — one channel of an intake.
* `Intake.Follows` — the intake, seen from one channel; `Follows.run` is the step, `Follows.takeAll`
  every run.
* `Intake.PayloadEdit`, `Intake.Edit` — what may be added, taken away or changed in a run;
  `Edit.arrivals_eq` is one edit, `arrivals_eq_of_eqvGen` any number of them.
* `Intake.takeAll_isolated` — runs with the same arrivals do the same to a channel.
-/

set_option autoImplicit false
namespace BatchInbox

open ChannelTable (Entry)

namespace Intake

/-! ## Runs -/

/-- Something that is asked of the intake. -/
inductive Call where
  /-- To go on to a block. -/
  | advance (block : Word)
  /-- To take a transaction. -/
  | push (post : Post)

namespace Call

/-- The block of a call. -/
def block : Call → Word
  | advance block => block
  | push post => post.tx.block

/-- Does what is asked: the channels that close. -/
def run (s : Intake) : Call → Except Error (List ClosedChannel) × Intake
  | advance block => ((s.advance block).1.map fun _ => [], (s.advance block).2)
  | push post => s.push post.tx post.blobs

/-- The frames of a channel that a call brings, with the place that they come from. -/
def arrivals (id : ChannelId) : Call → List (Frame × L1Position)
  | advance _ => []
  | push post => (post.own id).map (·, post.tx.position)

end Call

/-- Does all that is asked, if nothing of it is refused: the channels that close, and the state
behind the last call. -/
def takeAll (s : Intake) : List Call → Except Error (List ClosedChannel × Intake)
  | [] => .ok ([], s)
  | call :: calls =>
    match call.run s with
    | (.error e, _) => .error e
    | (.ok given, s) => (takeAll s calls).map fun (closed, s) => (given ++ closed, s)

/-- The frames of a channel that arrive in a run. -/
def arrivals (id : ChannelId) (calls : List Call) : List (Frame × L1Position) :=
  calls.flatMap (Call.arrivals id)

/-- A call that is not refused reaches its block. -/
theorem Call.block?_run {call : Call} {s s' : Intake} {given : List ClosedChannel}
    (h : call.run s = (.ok given, s')) : s'.block? = some call.block := by
  cases call with
  | advance block =>
    rcases hadvance : s.advance block with ⟨e | ⟨⟩, s''⟩ <;> rw [run, hadvance] at h <;> cases h
    exact block?_of_advance hadvance
  | push post => exact block?_of_push h

/-- A run that is not refused is a call that is not refused, and a run behind it. -/
theorem takeAll_cons {call : Call} {calls : List Call} {s s' : Intake}
    {given : List ClosedChannel} (h : s.takeAll (call :: calls) = .ok (given, s')) :
    ∃ now later s₁, call.run s = (.ok now, s₁) ∧ s₁.takeAll calls = .ok (later, s') ∧
      given = now ++ later := by
  rw [takeAll] at h
  rcases hcall : call.run s with ⟨e | now, s₁⟩ <;> rw [hcall] at h
  · exact absurd h nofun
  · rcases hlater : s₁.takeAll calls with e | ⟨later, s₂⟩ <;>
      simp only [hlater, Except.map] at h <;> cases h
    exact ⟨now, later, s₁, rfl, hlater, rfl⟩

/-- A run reaches the block of its last call. -/
theorem block?_takeAll {s s' : Intake} {given : List ClosedChannel} {calls : List Call}
    (h : s.takeAll calls = .ok (given, s')) {block : Word} (hblock : s'.block? = some block) :
    s.block? = some block ∨ ∃ call ∈ calls, call.block = block := by
  induction calls generalizing s given with
  | nil =>
    cases h
    exact .inl hblock
  | cons call calls ih =>
    obtain ⟨now, later, s₁, hcall, hlater, -⟩ := takeAll_cons h
    rcases ih hlater with hreached | ⟨call', hmem, hcall'⟩
    · cases (Call.block?_run hcall).symm.trans hreached
      exact .inr ⟨call, List.mem_cons_self, rfl⟩
    · exact .inr ⟨call', List.mem_cons_of_mem call hmem, hcall'⟩

/-- The last block that was read, when there is nothing more to read behind the given one. -/
def lastBlock (s : Intake) (block : Word) : Word :=
  match s.block? with
  | none => block
  | some current => if current ≤ block then block else current

theorem close_eq (s : Intake) (block : Word) :
    s.close block = s.dropped ++ (s.table.expire (s.lastBlock block)).1 ++
      ((s.table.expire (s.lastBlock block)).2.finish (s.lastBlock block)).1 := rfl

/-- Reading ends with a block that does not lie behind. -/
theorem lastBlock_of_le {s : Intake} {block : Word}
    (h : ∀ current, s.block? = some current → current ≤ block) : s.lastBlock block = block := by
  rw [lastBlock]
  cases hcurrent : s.block? with
  | none => rfl
  | some current => exact if_pos (h current hcurrent)

end Intake

/-! ## One channel of an intake -/

namespace ChannelFate
open Intake

variable {timeout : Word} {id : ChannelId}

/-- One channel of an intake, with all channels that it has closed so far. -/
def ofIntake (id : ChannelId) (closed : List ClosedChannel) (s : Intake) : ChannelFate where
  known? := s.table.find? id
  closed := closed.filter (·.id = id)
  dropped := s.dropped.filter (·.id = id)

/-- The fate of a channel at the block that has been reached. -/
def reach (timeout : Word) (id : ChannelId) (c : ChannelFate) : Option Word → ChannelFate
  | none => c
  | some block => c.wait timeout id block

@[simp]
theorem closed_reach (c : ChannelFate) (block? : Option Word) :
    (c.reach timeout id block?).closed = c.closed := by
  cases block? <;> rfl

theorem finish_reach {c : ChannelFate} {block? : Option Word} {last : Word}
    (h : ∀ block, block? = some block → block ≤ last) :
    (c.reach timeout id block?).finish timeout id last = c.finish timeout id last := by
  cases block? with
  | none => rfl
  | some block => rw [reach, finish, finish, wait_wait (h block rfl)]

end ChannelFate

namespace Intake
open ChannelFate

variable {timeout : Word} {id : ChannelId}

/-- Seen from one channel, the intake is the fate of that channel at the block it has reached. -/
structure Follows (timeout : Word) (id : ChannelId) (closed : List ClosedChannel) (s : Intake)
    (c : ChannelFate) : Prop where
  timeout_eq : s.table.timeout = timeout
  isAscending : s.table.IsAscending
  reached : ofIntake id closed s = c.reach timeout id s.block?

theorem follows_new (timeout : Word) (id : ChannelId) :
    (new timeout).Follows timeout id [] unknown :=
  ⟨rfl, ChannelTable.isAscending_new timeout, rfl⟩

/-- Reaching a block is a check. -/
theorem ofIntake_moveTo {s : Intake} (h : s.table.IsAscending) (closed : List ClosedChannel)
    (block : Word) :
    ofIntake id closed (s.moveTo block) =
      (ofIntake id closed s).wait s.table.timeout id block := by
  simp only [ofIntake, moveTo, wait, List.filter_append, ChannelTable.find?_expire h,
    ChannelTable.filter_expire h]

/-- Going on to a block, in one step or in many, is a check at that block. -/
theorem Follows.advance {s s' : Intake} {closed : List ClosedChannel} {c : ChannelFate}
    (h : s.Follows timeout id closed c) {block : Word}
    (hadvance : s.advance block = (.ok (), s')) : s'.Follows timeout id closed c := by
  obtain ⟨rfl, hascending, hreached⟩ := h
  rcases s.advance_cases block with ⟨e, _, -, -, heq⟩ | ⟨-, heq⟩ | ⟨hlater, heq⟩ <;>
    cases hadvance.symm.trans heq
  · exact ⟨rfl, hascending, hreached⟩
  · refine ⟨rfl, hascending.expire block, ?_⟩
    rw [ofIntake_moveTo hascending, hreached]
    cases hcurrent : s.block? with
    | none => rfl
    | some current => exact wait_wait (UInt64.le_of_lt (hlater current hcurrent)) c

/-! ## The frames of a transaction -/

/-- A channel closes under the id of its frames. -/
theorem filter_add_self {t : ChannelTable} {f : Frame} (source : L1Position) :
    (t.add f source).1.toOption.join.toList.filter (·.id = f.channel) =
      (t.add f source).1.toOption.join.toList := by
  refine List.filter_eq_self.2 fun done hdone => decide_eq_true ?_
  rcases t.add_cases f source with ⟨e, -, hadd⟩ | ⟨c, c', -, -, ⟨-, hadd⟩ | ⟨-, hadd⟩⟩ <;>
    rw [hadd] at hdone
  · exact absurd hdone List.not_mem_nil
  · exact absurd hdone List.not_mem_nil
  · rw [List.mem_singleton.1 hdone]
    rfl

/-- **The frames of a transaction**, seen from one channel, are the frames of that channel. -/
theorem ofIntake_takeFrames (id : ChannelId) (source : L1Position)
    (earlier closed : List ClosedChannel) (s : Intake) (frames : List Frame) :
    ofIntake id (earlier ++ (takeFrames source closed s.table frames).1)
        { s with table := (takeFrames source closed s.table frames).2 } =
      (own id frames).foldl (fun c f => c.take s.table.timeout f source)
        (ofIntake id (earlier ++ closed) s) := by
  induction frames generalizing closed s with
  | nil => rfl
  | cons f frames ih =>
    have htimeout := ChannelTable.timeout_add s.table f source
    have hstep := ih (closed ++ (s.table.add f source).1.toOption.join.toList)
      { s with table := (s.table.add f source).2 }
    rw [takeFrames_cons]
    by_cases hf : f.channel = id
    · subst hf
      rw [own_cons_self rfl, List.foldl_cons]
      simp only [htimeout] at hstep
      refine hstep.trans (congrArg (List.foldl _ · _) ?_)
      obtain ⟨hresult, hfind⟩ := ChannelTable.add_congr
        (ChannelTable.find?_only s.table.timeout f.channel (s.table.find? f.channel)).symm source
      simp only [take, ofIntake, ← hfind, ← hresult]
      rw [← List.append_assoc, List.filter_append, filter_add_self]
    · rw [own_cons_of_ne hf]
      simp only [htimeout] at hstep
      refine hstep.trans (congrArg (List.foldl _ · _) ?_)
      rw [ofIntake, ofIntake, (ChannelTable.add_of_ne hf source).1, ← List.append_assoc,
        List.filter_append, filter_add_of_ne hf, List.append_nil]

theorem takeFrames_invariant {t : ChannelTable} (h : t.IsAscending) (source : L1Position)
    (closed : List ClosedChannel) (frames : List Frame) :
    (takeFrames source closed t frames).2.IsAscending ∧
      (takeFrames source closed t frames).2.timeout = t.timeout := by
  induction frames generalizing t closed with
  | nil => exact ⟨h, rfl⟩
  | cons f frames ih =>
    rw [takeFrames_cons]
    obtain ⟨hascending, htimeout⟩ :=
      ih (h.add f source) (closed ++ (t.add f source).1.toOption.join.toList)
    exact ⟨hascending, htimeout.trans (ChannelTable.timeout_add t f source)⟩

/-! ## Runs, seen from one channel -/

/-- **The step.**  What is asked of the intake adds the frames that it brings to the fate of the
channel, and nothing else. -/
theorem Follows.run {s s' : Intake} {closed given : List ClosedChannel} {c : ChannelFate}
    (h : s.Follows timeout id closed c) {call : Call} (hrun : call.run s = (.ok given, s')) :
    s'.Follows timeout id (closed ++ given) ((call.arrivals id).foldl (arrive timeout id) c) := by
  cases call with
  | advance block =>
    rcases hadvance : s.advance block with ⟨e | ⟨⟩, s''⟩ <;>
      rw [Call.run, hadvance] at hrun <;> cases hrun
    rw [List.append_nil]
    exact h.advance hadvance
  | push post =>
    rw [Call.run, Intake.push] at hrun
    rcases hadvance : s.advance post.tx.block with ⟨e | ⟨⟩, s''⟩ <;> rw [hadvance] at hrun
    · cases hrun
    · simp only at hrun
      split at hrun <;> cases hrun
      have hblock := block?_of_advance hadvance
      obtain ⟨rfl, hascending, hreached⟩ := h.advance hadvance
      obtain ⟨hascending', htimeout⟩ := takeFrames_invariant hascending post.tx.position []
        (post.tx.frames post.blobs)
      refine ⟨htimeout, hascending', ?_⟩
      have hframes : ∀ f ∈ own id (post.tx.frames post.blobs), f.channel = id := fun f hf =>
        of_decide_eq_true (List.mem_filter.1 hf).2
      have htake := ofIntake_takeFrames id post.tx.position closed [] s''
        (post.tx.frames post.blobs)
      rw [hblock] at hreached ⊢
      rw [List.append_nil, hreached] at htake
      rw [reach, Call.arrivals, Post.own]
      refine Eq.trans ?_ (htake.trans (wait_foldl_arrive c hframes).symm)
      simp only [ofIntake, List.filter_append, filter_id_sortById]

/-- **Every run**, seen from one channel, adds the frames that arrive. -/
theorem Follows.takeAll {s s' : Intake} {closed given : List ClosedChannel} {c : ChannelFate}
    (h : s.Follows timeout id closed c) {calls : List Call}
    (hrun : s.takeAll calls = .ok (given, s')) :
    s'.Follows timeout id (closed ++ given) ((arrivals id calls).foldl (arrive timeout id) c) := by
  induction calls generalizing s closed given c with
  | nil =>
    cases hrun
    rw [List.append_nil]
    exact h
  | cons call calls ih =>
    obtain ⟨now, later, s₁, hcall, hlater, rfl⟩ := takeAll_cons hrun
    rw [arrivals, List.flatMap_cons, List.foldl_append, ← List.append_assoc]
    exact ih (h.run hcall) hlater

/-- What is given up of a channel in the end. -/
theorem Follows.close {s : Intake} {closed : List ClosedChannel} {c : ChannelFate}
    (h : s.Follows timeout id closed c) {last : Word}
    (hlast : ∀ block, s.block? = some block → block ≤ last) :
    (s.close last).filter (·.id = id) = c.finish timeout id last := by
  obtain ⟨rfl, hascending, hreached⟩ := h
  rw [close_eq, lastBlock_of_le hlast, ← finish_reach hlast, ← hreached]
  simp only [finish, wait, ofIntake, List.filter_append, ChannelTable.filter_expire hascending,
    ChannelTable.filter_finish (hascending.expire last), ChannelTable.find?_expire hascending]
  rfl

/-- **The fate of a channel.**  In every run that is not refused, the closed channels of an id and
those given up in the end are the fate of the frames that arrive under this id. -/
theorem fate_takeAll {s : Intake} {closed : List ClosedChannel} {calls : List Call}
    (hrun : (new timeout).takeAll calls = .ok (closed, s)) {last : Word}
    (hlast : ∀ call ∈ calls, call.block ≤ last) (id : ChannelId) :
    closed.filter (·.id = id) = (ofArrivals timeout id (arrivals id calls)).closed ∧
      (s.close last).filter (·.id = id) =
        (ofArrivals timeout id (arrivals id calls)).finish timeout id last := by
  have hfollows := (follows_new timeout id).takeAll hrun
  refine ⟨?_, hfollows.close fun block hblock => ?_⟩
  · exact (congrArg ChannelFate.closed hfollows.reached).trans (closed_reach _ _)
  · rcases block?_takeAll hrun hblock with hnone | ⟨call, hmem, rfl⟩
    · exact absurd hnone nofun
    · exact hlast call hmem

/-! ## What does not arrive -/

/-- Payloads in place of others, with the same frames of a channel. -/
inductive PayloadEdit (id : ChannelId) : List Bytes → List Bytes → Prop where
  /-- One more, which is malformed. -/
  | malformed (before after : List Bytes) {payload : Bytes} {e : Frame.Error}
    (h : Frame.decodeAll payload = .error e) :
    PayloadEdit id (before ++ after) (before ++ payload :: after)
  /-- One more, with frames of other channels. -/
  | strangers (before after : List Bytes) {payload : Bytes} {frames : List Frame}
    (h : Frame.decodeAll payload = .ok frames) (hothers : ∀ f ∈ frames, f.channel ≠ id) :
    PayloadEdit id (before ++ after) (before ++ payload :: after)
  /-- Another one, with other frames of other channels. -/
  | frames (before after : List Bytes) {payload payload' : Bytes} {frames frames' : List Frame}
    (h : Frame.decodeAll payload = .ok frames) (h' : Frame.decodeAll payload' = .ok frames')
    (hown : own id frames = own id frames') :
    PayloadEdit id (before ++ payload :: after) (before ++ payload' :: after)

/-- Calls in place of others, which bring the same frames of a channel. -/
inductive Edit (id : ChannelId) : List Call → List Call → Prop where
  /-- One more block to go on to. -/
  | advance (before after : List Call) (block : Word) :
    Edit id (before ++ after) (before ++ .advance block :: after)
  /-- One more transaction, without frames of the channel. -/
  | push (before after : List Call) {p : Post}
    (h : Relation.EqvGen (PayloadEdit id) [] (p.tx.payloads p.blobs)) :
    Edit id (before ++ after) (before ++ .push p :: after)
  /-- Other payloads of a transaction. -/
  | payloads (before after : List Call) {p p' : Post} (hposition : p.tx.position = p'.tx.position)
    (h : Relation.EqvGen (PayloadEdit id) (p.tx.payloads p.blobs) (p'.tx.payloads p'.blobs)) :
    Edit id (before ++ .push p :: after) (before ++ .push p' :: after)
  /-- Other calldata of a transaction with blobs. -/
  | calldata (before after : List Call) {tx : InboxTx} (h : tx.payloadSource = .blobs)
    (blobs : List Blob) (calldata : Bytes) :
    Edit id (before ++ .push ⟨tx, blobs⟩ :: after)
      (before ++ .push ⟨{ tx with calldata }, blobs⟩ :: after)

theorem own_frames (id : ChannelId) (tx : InboxTx) (blobs : List Blob) :
    own id (tx.frames blobs) = (tx.payloads blobs).flatMap (Frame.ownIn id) :=
  List.filter_flatMap

theorem PayloadEdit.flatMap_ownIn {payloads payloads' : List Bytes}
    (h : PayloadEdit id payloads payloads') :
    payloads.flatMap (Frame.ownIn id) = payloads'.flatMap (Frame.ownIn id) := by
  cases h with
  | malformed before after h =>
    rw [List.flatMap_append, List.flatMap_append, List.flatMap_cons, Frame.ownIn, h]
    rfl
  | strangers before after h hothers =>
    rw [List.flatMap_append, List.flatMap_append, List.flatMap_cons, Frame.ownIn, h,
      Except.toOption, Option.getD_some, own_eq_nil_iff.2 hothers, List.nil_append]
  | frames before after h h' hown =>
    rw [List.flatMap_append, List.flatMap_append, List.flatMap_cons, List.flatMap_cons,
      Frame.ownIn, Frame.ownIn, h, h']
    simp only [Except.toOption, Option.getD_some, hown]

/-- Payloads that come of others by edits have the same frames of the channel. -/
theorem flatMap_ownIn_of_eqvGen {payloads payloads' : List Bytes}
    (h : Relation.EqvGen (PayloadEdit id) payloads payloads') :
    payloads.flatMap (Frame.ownIn id) = payloads'.flatMap (Frame.ownIn id) :=
  (eq_equivalence.comap (List.flatMap (Frame.ownIn id))).eqvGen_iff.1
    (h.mono fun _ _ hedit => hedit.flatMap_ownIn)

/-- The calldata of a transaction with blobs is nothing. -/
theorem frames_calldata {tx : InboxTx} (h : tx.payloadSource = .blobs) (calldata : Bytes)
    (blobs : List Blob) : { tx with calldata }.frames blobs = tx.frames blobs := by
  have h' : { tx with calldata }.payloadSource = .blobs := h
  rw [InboxTx.frames, InboxTx.frames, InboxTx.payloads, InboxTx.payloads, h, h']

/-- A call that brings no frames of the channel is nothing. -/
theorem arrivals_insert {call : Call} (h : call.arrivals id = []) (before after : List Call) :
    arrivals id (before ++ call :: after) = arrivals id (before ++ after) := by
  rw [arrivals, arrivals, List.flatMap_append, List.flatMap_append, List.flatMap_cons, h,
    List.nil_append]

theorem arrivals_congr {call call' : Call} (h : call.arrivals id = call'.arrivals id)
    (before after : List Call) :
    arrivals id (before ++ call :: after) = arrivals id (before ++ call' :: after) := by
  rw [arrivals, arrivals, List.flatMap_append, List.flatMap_append, List.flatMap_cons,
    List.flatMap_cons, h]

/-- **One edit** leaves what arrives of the channel as it is. -/
theorem Edit.arrivals_eq {calls calls' : List Call} (h : Edit id calls calls') :
    arrivals id calls = arrivals id calls' := by
  cases h with
  | advance before after block => exact (arrivals_insert rfl before after).symm
  | push before after h =>
    refine (arrivals_insert ?_ before after).symm
    rw [Call.arrivals, Post.own, own_frames, ← flatMap_ownIn_of_eqvGen h]
    rfl
  | payloads before after hposition h =>
    refine arrivals_congr ?_ before after
    rw [Call.arrivals, Call.arrivals, Post.own, Post.own, own_frames, own_frames,
      flatMap_ownIn_of_eqvGen h, hposition]
  | calldata before after h blobs calldata =>
    refine arrivals_congr (Eq.symm ?_) before after
    exact congrArg (fun frames => (own id frames).map _) (frames_calldata h calldata blobs)

/-- **Any edits** leave it as it is. -/
theorem arrivals_eq_of_eqvGen {calls calls' : List Call}
    (h : Relation.EqvGen (Edit id) calls calls') : arrivals id calls = arrivals id calls' :=
  (eq_equivalence.comap (arrivals id)).eqvGen_iff.1 (h.mono fun _ _ hedit => hedit.arrivals_eq)

/-! ## Isolation -/

/-- **Channels do not disturb each other.**  Runs in which the same frames of a channel arrive from
the same places on L1 close the same channels of that id, in the same order, and give up the same
ones, whatever else is pushed, and wherever they advance to in between.  So do runs of which one
comes of the other when frames of other channels, malformed payloads, calldata beside blobs and
blocks to go on to are added, taken away or changed. -/
theorem takeAll_isolated {calls calls' : List Call} {closed closed' : List ClosedChannel}
    {s s' : Intake} (hrun : (new timeout).takeAll calls = .ok (closed, s))
    (hrun' : (new timeout).takeAll calls' = .ok (closed', s')) {last : Word}
    (hlast : ∀ call ∈ calls, call.block ≤ last) (hlast' : ∀ call ∈ calls', call.block ≤ last)
    (hsame : arrivals id calls = arrivals id calls' ∨ Relation.EqvGen (Edit id) calls calls') :
    closed.filter (·.id = id) = closed'.filter (·.id = id) ∧
      (s.close last).filter (·.id = id) = (s'.close last).filter (·.id = id) := by
  have harrivals : arrivals id calls = arrivals id calls' := by
    rcases hsame with harrivals | hedits
    · exact harrivals
    · exact arrivals_eq_of_eqvGen hedits
  obtain ⟨hclosed, hdropped⟩ := fate_takeAll hrun hlast id
  obtain ⟨hclosed', hdropped'⟩ := fate_takeAll hrun' hlast' id
  rw [hclosed, hdropped, hclosed', hdropped', harrivals]
  exact ⟨rfl, rfl⟩

/-- Frames without data, each in a channel with a byte in front. -/
def emptyFrames (frames : List (UInt8 × UInt16 × Bool)) : Bytes :=
  Frame.encodeAll (frames.map fun (first, number, isLast) =>
    ⟨⟨first :: List.replicate 15 0, rfl⟩, number, [], isLast⟩)

/-- A transaction with such frames in its calldata. -/
def framesIn (block : Word) (frames : List (UInt8 × UInt16 × Bool)) : Call :=
  .push ⟨⟨block, 0, 0, BytesN.zero 32, BytesN.zero 20, BytesN.zero 20, 2, emptyFrames frames, [],
    []⟩, []⟩

/-- Calldata that is not read: it has no frames, or there should be blobs. -/
def noiseIn (block : Word) (type : UInt8) (calldata : Bytes) : Call :=
  .push ⟨⟨block, 1, 0, BytesN.zero 32, BytesN.zero 20, BytesN.zero 20, type, calldata, [], []⟩, []⟩

/-- A transaction with a blob, and with calldata beside it. -/
def blobIn (block : Word) (blob : Blob) : Call :=
  .push ⟨⟨block, 0, 0, BytesN.zero 32, BytesN.zero 20, BytesN.zero 20, 3, [9], [BytesN.zero 32],
    []⟩, [blob]⟩

/-- The channel with `1` in front. -/
def quietChannel : ChannelId := ⟨1 :: List.replicate 15 0, rfl⟩

/-- A channel that closes, and another one under its id that times out. -/
def quietRun : List Call :=
  [framesIn 5 [(1, 0, false)], framesIn 6 [(1, 1, true)], framesIn 8 [(1, 0, false)]]

/-- The same, with frames of another channel, calldata that is not read, and checks for timeouts. -/
def noisyRun : List Call :=
  [framesIn 5 [(2, 1, false), (1, 0, false)], noiseIn 5 3 [0], .advance 6,
    framesIn 6 [(2, 2, true), (1, 1, true)], .advance 7, framesIn 8 [(1, 0, false), (2, 7, false)],
    .advance 9, .advance 11]

/-- How many channels a run closes, and how many it gives up at block 20. -/
def outcome? (calls : List Call) : Option (Nat × Nat) :=
  ((new 2).takeAll calls).toOption.map fun (closed, s) => (closed.length, (s.close 20).length)

theorem takeAll_of_outcome? {calls : List Call} {closed dropped : Nat}
    (h : outcome? calls = some (closed, dropped)) :
    ∃ given s, (new 2).takeAll calls = .ok (given, s) ∧ given.length = closed ∧
      (s.close 20).length = dropped := by
  rw [outcome?] at h
  rcases hrun : (new 2).takeAll calls with e | ⟨given, s⟩ <;> rw [hrun] at h <;> cases h
  exact ⟨given, s, rfl, rfl, rfl⟩

/-- Frames in a blob are taken as those in calldata are. -/
theorem run_blobIn {blob : Blob} {frames : List (UInt8 × UInt16 × Bool)}
    (h : blob.decode = .ok (emptyFrames frames)) (block : Word) (s : Intake) :
    (blobIn block blob).run s = (framesIn block frames).run s := by
  rw [blobIn, framesIn, Call.run, Call.run, push, push]
  simp only [InboxTx.frames, InboxTx.payloads, InboxTx.payloadSource, List.filterMap_cons, h]
  rfl

/-- The blob holds a frame of another channel: it is one edit to take it first, and with all the
noise behind it the same frames of the channel arrive. -/
theorem takeAll_isolated_noisyRun : ∃ blob closed closed₁ closed₂ s s₁ s₂,
    Blob.encode (emptyFrames [(2, 0, false)]) = .ok blob ∧
      (new 2).takeAll quietRun = .ok (closed, s) ∧
      (new 2).takeAll (blobIn 4 blob :: quietRun) = .ok (closed₁, s₁) ∧
      (new 2).takeAll (blobIn 4 blob :: noisyRun) = .ok (closed₂, s₂) ∧
      closed.length = 1 ∧ closed₁.length = 1 ∧ closed₂.length = 2 ∧
      (s.close 20).length = 1 ∧ (s₁.close 20).length = 2 ∧ (s₂.close 20).length = 2 ∧
      (closed.filter (·.id = quietChannel) = closed₁.filter (·.id = quietChannel) ∧
        (s.close 20).filter (·.id = quietChannel) = (s₁.close 20).filter (·.id = quietChannel)) ∧
      closed.filter (·.id = quietChannel) = closed₂.filter (·.id = quietChannel) ∧
        (s.close 20).filter (·.id = quietChannel) = (s₂.close 20).filter (·.id = quietChannel) := by
  obtain ⟨blob, hblob, -, hdecode⟩ := Blob.exists_encode_decode
    (by decide +kernel : (emptyFrames [(2, 0, false)]).length ≤ Blob.maxPayload)
  have hmore : outcome? (blobIn 4 blob :: quietRun) = some (1, 2) := by
    rw [outcome?, takeAll, run_blobIn hdecode]
    cbv
  have hnoisy : outcome? (blobIn 4 blob :: noisyRun) = some (2, 2) := by
    rw [outcome?, takeAll, run_blobIn hdecode]
    cbv
  obtain ⟨closed, s, hrun, hclosed, hdropped⟩ :=
    takeAll_of_outcome? (by cbv : outcome? quietRun = some (1, 1))
  obtain ⟨closed₁, s₁, hrun₁, hclosed₁, hdropped₁⟩ := takeAll_of_outcome? hmore
  obtain ⟨closed₂, s₂, hrun₂, hclosed₂, hdropped₂⟩ := takeAll_of_outcome? hnoisy
  have hframes : Frame.decodeAll (emptyFrames [(2, 0, false)]) =
      .ok [⟨⟨2 :: List.replicate 15 0, rfl⟩, 0, [], false⟩] := by
    decide +kernel
  have hpayloads : InboxTx.payloads ⟨4, 0, 0, BytesN.zero 32, BytesN.zero 20, BytesN.zero 20, 3,
      [9], [BytesN.zero 32], []⟩ [blob] = [emptyFrames [(2, 0, false)]] := by
    simp only [InboxTx.payloads, InboxTx.payloadSource, List.filterMap_cons, hdecode]
    rfl
  have hpush : ∀ calls, Edit quietChannel calls (blobIn 4 blob :: calls) := by
    refine fun calls => .push [] calls ?_
    rw [hpayloads]
    exact .rel _ _ (.strangers [] [] hframes (by decide +kernel))
  have harrivals : arrivals quietChannel quietRun = arrivals quietChannel noisyRun := by
    decide +kernel
  have hblock : (4 : Word) ≤ 20 := by decide
  have hquiet : ∀ call ∈ quietRun, call.block ≤ 20 := by decide +kernel
  have hnoise : ∀ call ∈ blobIn 4 blob :: noisyRun, call.block ≤ 20 :=
    List.forall_mem_cons.2 ⟨hblock, by decide +kernel⟩
  refine ⟨blob, closed, closed₁, closed₂, s, s₁, s₂, hblob, hrun, hrun₁, hrun₂, hclosed, hclosed₁,
    hclosed₂, hdropped, hdropped₁, hdropped₂, ?_, ?_⟩
  · exact takeAll_isolated hrun hrun₁ hquiet (List.forall_mem_cons.2 ⟨hblock, hquiet⟩)
      (.inr (.rel _ _ (hpush quietRun)))
  · exact takeAll_isolated hrun hrun₂ hquiet hnoise
      (.inl (harrivals.trans (hpush noisyRun).arrivals_eq))

end Intake
end BatchInbox
