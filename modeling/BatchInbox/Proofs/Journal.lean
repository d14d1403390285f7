import BatchInbox.Proofs.Isolation

/-!
# Keeping a journal

A run of the intake may be refused something and still go on.  Whatever is asked, it does two things
only: it reaches a later block, or it gives a frame of the block that it has reached to the table.
The journal of a run has a receipt for every such frame, which says what the table knew of the
frame's channel and what it made of the frame.

So what holds of a run is shown for these two steps (`Intake.IsKept`).

## What is here

* `ChannelTable.BeginsAt` — where the channel of a frame begins.
* `ChannelTable.mem_expired` — what a check gives up.
* `Intake.Receipt` — a frame that was given to the table; `Receipt.opens`, `Receipt.closed?`.
* `Intake.journal` — a run, with what was asked, refused or not.
* `Intake.IsKept` — what the two steps keep; `IsKept.journal` — every run keeps it.
* `Intake.closed_journal_perm` — the channels that pushes give are those that the receipts name.
-/

set_option autoImplicit false
namespace BatchInbox

open ChannelTable (Entry)

namespace ChannelTable
variable {t : ChannelTable} {id : ChannelId}

/-! ## What a frame can do -/

/-- The block in which the channel of a frame was first seen: an open channel keeps its own, and a
channel without an entry begins with the frame. -/
def BeginsAt (t : ChannelTable) (f : Frame) (source : L1Position) (first : Word) : Prop :=
  t.find? f.channel = none ∧ first = source.block ∨
    ∃ c : OpenChannel, t.find? f.channel = some (.open c) ∧ c.firstSeen = first

/-- A channel that takes a frame keeps the block in which it was first seen. -/
theorem Meets.beginsAt {f : Frame} {source : L1Position} {c c' : OpenChannel}
    (h : t.Meets f source c) (hadd : c.add f = .ok c') : t.BeginsAt f source c'.firstSeen := by
  rw [OpenChannel.firstSeen_of_add hadd]
  rcases h with ⟨hnone, rfl⟩ | hopen
  · exact .inl ⟨hnone, rfl⟩
  · exact .inr ⟨c, hopen, rfl⟩

/-- An entry of an ascending table is the one that is found under its id. -/
theorem IsAscending.find?_of_mem (h : t.IsAscending) {entry : Entry}
    (hmem : (id, entry) ∈ t.entries) : t.find? id = some entry := by
  rw [IsAscending] at h
  rw [find?]
  generalize t.entries = entries at h hmem
  induction entries with
  | nil => exact absurd hmem List.not_mem_nil
  | cons e entries ih =>
    obtain ⟨hlater, hentries⟩ := List.pairwise_cons.1 h
    rcases List.mem_cons.1 hmem with rfl | hmem
    · exact List.lookup_cons_self
    · rw [List.lookup_cons, beq_false_of_ne (BytesN.ne_of_lt (hlater _ hmem)).symm]
      exact ih hentries hmem

theorem mem_of_find? {entry : Entry} (h : t.find? id = some entry) : (id, entry) ∈ t.entries := by
  obtain ⟨before, after, hentries, -⟩ := List.lookup_eq_some_iff.1 h
  rw [hentries]
  simp

/-! ## What a check gives up -/

/-- What a check gives up is an open channel that has timed out. -/
theorem mem_expired {block : Word} {d : DroppedChannel} :
    d ∈ (t.expire block).1 ↔
      ∃ id c, (id, Entry.open c) ∈ t.entries ∧ c.isTimedOut block t.timeout = true ∧
        d = c.drop id .timedOut := by
  rw [expire, List.mem_filterMap]
  constructor
  · rintro ⟨⟨id, c | first⟩, hmem, hdrop⟩
    · rw [expired?] at hdrop
      split at hdrop
      · rename_i htimedOut
        exact ⟨id, c, hmem, htimedOut, (Option.some.inj hdrop).symm⟩
      · cases hdrop
    · cases hdrop
  · rintro ⟨id, c, hmem, htimedOut, rfl⟩
    exact ⟨_, hmem, if_pos htimedOut⟩

end ChannelTable

namespace Intake

/-- The intake when the table has taken a frame. -/
def take (s : Intake) (f : Frame) (source : L1Position) : Intake :=
  { s with table := (s.table.add f source).2 }

/-! ## Receipts -/

/-- A frame that was given to the table. -/
structure Receipt where
  frame : Frame
  source : L1Position
  /-- What the table knew of the frame's channel. -/
  known? : Option Entry
  /-- What the table made of the frame. -/
  result : Except ChannelError (Option ClosedChannel)

namespace Receipt

/-- The frame begins a channel. -/
def opens (r : Receipt) : Bool := r.known?.isNone

/-- The channel that the frame completes. -/
def closed? (r : Receipt) : Option ClosedChannel := r.result.toOption.join

/-- The receipt of a frame. -/
def of (t : ChannelTable) (f : Frame) (source : L1Position) : Receipt :=
  ⟨f, source, t.find? f.channel, (t.add f source).1⟩

section
variable {t t' : ChannelTable} {f : Frame} {source : L1Position}

theorem closed?_of_error {e : ChannelError} (h : t.add f source = (.error e, t')) :
    (of t f source).closed? = none := by
  rw [closed?, of, h]
  rfl

theorem closed?_of_ok {done? : Option ClosedChannel} (h : t.add f source = (.ok done?, t')) :
    (of t f source).closed? = done? := by
  rw [closed?, of, h]
  rfl

/-- A frame that completes a channel is of that channel, and comes from where the channel closes. -/
theorem of_closed? {done : ClosedChannel} (h : (of t f source).closed? = some done) :
    t.BeginsAt f source done.firstSeen ∧ done.closedAt = source ∧ done.id = f.channel := by
  rcases t.add_cases f source with ⟨e, -, hadd⟩ | ⟨c, c', hmeets, hc', ⟨-, hadd⟩ | ⟨-, hadd⟩⟩
  · rw [closed?_of_error hadd] at h
    exact absurd h nofun
  · rw [closed?_of_ok hadd] at h
    exact absurd h nofun
  · rw [closed?_of_ok hadd] at h
    cases h
    exact ⟨hmeets.beginsAt hc', rfl, rfl⟩

end

end Receipt

/-- The receipts of the frames of one transaction. -/
def receipts (source : L1Position) : ChannelTable → List Frame → List Receipt
  | _, [] => []
  | t, f :: frames => .of t f source :: receipts source (t.add f source).2 frames

/-- The receipts of what is asked of the intake.  The frames of a transaction that is refused are
given to nobody. -/
def Call.receipts (s : Intake) : Call → List Receipt
  | .advance _ => []
  | .push post =>
    match (s.push post.tx post.blobs).1 with
    | .error _ => []
    | .ok _ => Intake.receipts post.tx.position (s.advance post.tx.block).2.table
        (post.tx.frames post.blobs)

/-- A run of the intake. -/
structure Journal where
  /-- The state behind the run. -/
  intake : Intake
  receipts : List Receipt
  /-- The channels that pushes have given. -/
  closed : List ClosedChannel

/-- Something more is asked of the intake, which may be refused. -/
def Journal.enter (j : Journal) (call : Call) : Journal where
  intake := (call.run j.intake).2
  receipts := j.receipts ++ call.receipts j.intake
  closed := j.closed ++ (call.run j.intake).1.toOption.getD []

/-- The run in which this is asked of the intake, one after the other. -/
def journal (s : Intake) (calls : List Call) : Journal :=
  calls.foldl Journal.enter ⟨s, [], []⟩

/-! ## Runs, step by step -/

/-- A run is what is asked first, and the run behind it. -/
theorem journal_cons (s : Intake) (call : Call) (calls : List Call) :
    s.journal (call :: calls) =
      ⟨((call.run s).2.journal calls).intake,
        call.receipts s ++ ((call.run s).2.journal calls).receipts,
        (call.run s).1.toOption.getD [] ++ ((call.run s).2.journal calls).closed⟩ := by
  have hfold : ∀ (calls : List Call) (j : Journal), calls.foldl Journal.enter j =
      ⟨(j.intake.journal calls).intake, j.receipts ++ (j.intake.journal calls).receipts,
        j.closed ++ (j.intake.journal calls).closed⟩ := by
    intro calls
    induction calls with
    | nil => intro j; simp [journal]
    | cons call calls ih =>
      intro j
      rw [journal, List.foldl_cons, ih, List.foldl_cons, ih (Journal.enter _ call)]
      simp [Journal.enter]
  exact hfold calls ((⟨s, [], []⟩ : Journal).enter call)

/-- The frames of a transaction are taken one by one. -/
theorem closed_takeFrames (source : L1Position) (closed : List ClosedChannel) (t : ChannelTable)
    (frames : List Frame) :
    (takeFrames source closed t frames).1 =
      closed ++ (receipts source t frames).filterMap Receipt.closed? := by
  induction frames generalizing closed t with
  | nil => simp [takeFrames, receipts]
  | cons f frames ih =>
    rw [takeFrames_cons, ih, receipts, List.append_assoc]
    show closed ++ ((Receipt.of t f source).closed?.toList ++ _) = _
    cases hclosed : (Receipt.of t f source).closed? with
    | none => rw [List.filterMap_cons_none hclosed]; rfl
    | some done => rw [List.filterMap_cons_some hclosed]; rfl

/-- Reaching a block and taking a frame keep a property of the state and of the receipts so far. -/
structure IsKept (P : Intake → List Receipt → Prop) : Prop where
  moveTo {s : Intake} {rs : List Receipt} (block : Word) (hs : s.table.IsAscending)
    (hlater : ∀ current, s.block? = some current → current < block) (h : P s rs) :
    P (s.moveTo block) rs
  take {s : Intake} {rs : List Receipt} (f : Frame) (source : L1Position)
    (hs : s.table.IsAscending) (hblock : s.block? = some source.block) (h : P s rs) :
    P (s.take f source) (rs ++ [.of s.table f source])

namespace IsKept
variable {P : Intake → List Receipt → Prop} {s : Intake} {rs : List Receipt}

theorem takeFrames (hP : IsKept P) {source : L1Position} (closed : List ClosedChannel)
    (frames : List Frame) (hs : s.table.IsAscending) (hblock : s.block? = some source.block)
    (h : P s rs) :
    P { s with table := (Intake.takeFrames source closed s.table frames).2 }
      (rs ++ receipts source s.table frames) := by
  induction frames generalizing s rs closed with
  | nil => simpa [Intake.takeFrames, receipts] using h
  | cons f frames ih =>
    rw [takeFrames_cons, receipts, List.append_cons]
    exact ih (s := s.take f source) _ (hs.add f source) hblock (hP.take f source hs hblock h)

theorem advance (hP : IsKept P) (block : Word) (hs : s.table.IsAscending) (h : P s rs) :
    P (s.advance block).2 rs ∧ (s.advance block).2.table.IsAscending := by
  rcases s.advance_cases block with ⟨e, _, -, -, hadvance⟩ | ⟨-, hadvance⟩ | ⟨hlater, hadvance⟩ <;>
    rw [hadvance]
  · exact ⟨h, hs⟩
  · exact ⟨h, hs⟩
  · exact ⟨hP.moveTo block hs hlater h, hs.expire block⟩

/-- **The step.**  What is asked of the intake comes down to reaching a block and taking frames. -/
theorem run (hP : IsKept P) (call : Call) (hs : s.table.IsAscending) (h : P s rs) :
    P (call.run s).2 (rs ++ call.receipts s) ∧ (call.run s).2.table.IsAscending := by
  cases call with
  | advance block =>
    rw [Call.receipts, List.append_nil]
    exact hP.advance block hs h
  | push post =>
    obtain ⟨h', hs'⟩ := hP.advance post.tx.block hs h
    rw [Call.receipts, Call.run, push]
    rcases hadvance : s.advance post.tx.block with ⟨e | ⟨⟩, s'⟩ <;> rw [hadvance] at h' hs'
    · exact ⟨by simpa using h', hs'⟩
    · simp only
      split
      · exact ⟨by simpa using h', hs'⟩
      · exact ⟨hP.takeFrames [] _ hs' (block?_of_advance hadvance) h',
          (takeFrames_invariant hs' post.tx.position [] _).1⟩

/-- **Every run.**  What the two steps keep holds behind every run. -/
theorem journal (hP : IsKept P) (calls : List Call) (hs : s.table.IsAscending) (h : P s []) :
    P (s.journal calls).intake (s.journal calls).receipts ∧
      (s.journal calls).intake.table.IsAscending := by
  have hfold : ∀ j : Journal, j.intake.table.IsAscending → P j.intake j.receipts →
      P (calls.foldl Journal.enter j).intake (calls.foldl Journal.enter j).receipts ∧
        (calls.foldl Journal.enter j).intake.table.IsAscending := by
    induction calls with
    | nil => exact fun j hs h => ⟨h, hs⟩
    | cons call calls ih =>
      intro j hs h
      obtain ⟨h', hs'⟩ := hP.run call hs h
      exact ih (j.enter call) hs' h'
  exact hfold ⟨s, [], []⟩ hs h

end IsKept

/-! ## What pushes give -/

/-- The channels that something asked of the intake gives are those that its receipts name, by
ascending id. -/
theorem given_perm (s : Intake) (call : Call) :
    ((call.run s).1.toOption.getD []).Perm ((call.receipts s).filterMap Receipt.closed?) := by
  cases call with
  | advance block =>
    rw [Call.run, Call.receipts]
    cases (s.advance block).1 <;> exact List.Perm.nil
  | push post =>
    rw [Call.run, Call.receipts, push]
    rcases hadvance : s.advance post.tx.block with ⟨e | ⟨⟩, s'⟩
    · exact List.Perm.nil
    · simp only
      split
      · exact List.Perm.nil
      · have htaken := closed_takeFrames post.tx.position [] s'.table (post.tx.frames post.blobs)
        rw [List.nil_append] at htaken
        rw [← htaken]
        exact List.mergeSort_perm _ _

/-- **The channels that pushes give** are those that the receipts of the run name. -/
theorem closed_journal_perm (s : Intake) (calls : List Call) :
    (s.journal calls).closed.Perm ((s.journal calls).receipts.filterMap Receipt.closed?) := by
  induction calls generalizing s with
  | nil => exact .nil
  | cons call calls ih =>
    rw [journal_cons, List.filterMap_append]
    exact (given_perm s call).append (ih _)

end Intake
end BatchInbox
