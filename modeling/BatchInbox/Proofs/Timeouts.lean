import BatchInbox.Proofs.Journal

/-!
# Timeouts

Channels are checked for timeouts only when the intake reaches a block, be it the next one or one far
ahead.  Still no channel is ever open for longer than the timeout, none closes later than that, and a
mark stands for exactly as long again.

A mark keeps its id from being used too early.  So when a channel has timed out, no frame of its id
is taken up to twice the timeout behind its first frame, and whatever channel has the id later began
later than that.  This does not depend on whether the mark was ever seen: a check far ahead gives up
a channel and forgets its mark at once.

## What is here

* `ChannelTable.Entry.KeepsTime`, `Intake.KeepsTime`, `ClosedChannel.KeepsTime` — being in time.
* `Intake.Bars` — the id of a channel that has timed out is barred, or was taken up later.
* `Intake.isKept_onTime`, `Intake.isKept_barredSince` — the steps.
* `Intake.journal_keepsTime` — every run.
-/

set_option autoImplicit false
namespace BatchInbox

open ChannelTable (Entry)

/-! ## Being in time -/

/-- The last block at which the id of a channel is barred that was first seen in the block `first`
and has timed out: twice the timeout behind. -/
def ChannelTable.barredUntil (timeout first : Word) : Word :=
  Word.addSat first (Word.mulSat timeout 2)

/-- What the table knows when a block has been reached: an open channel has not timed out, and a mark
is that of a channel that has, not longer ago than the timeout. -/
def ChannelTable.Entry.KeepsTime (timeout block : Word) : Entry → Prop
  | .open c => c.firstSeen ≤ block ∧ block ≤ Word.addSat c.firstSeen timeout
  | .timedOut first =>
    Word.addSat first timeout < block ∧ block ≤ ChannelTable.barredUntil timeout first

/-- The channel was closed within the timeout. -/
def ClosedChannel.KeepsTime (timeout : Word) (c : ClosedChannel) : Prop :=
  c.firstSeen ≤ c.closedAt.block ∧ c.closedAt.block ≤ Word.addSat c.firstSeen timeout

/-- All that the table knows fits the block that has been reached. -/
def Intake.KeepsTime (timeout : Word) (s : Intake) : Prop :=
  ∀ e ∈ s.table.entries, ∃ block, s.block? = some block ∧ e.2.KeepsTime timeout block

namespace ChannelTable
variable {t : ChannelTable} {id : ChannelId} {timeout block : Word}

open ChannelFate (age?_open age?_mark)

theorem isCurrent_mark (timeout block first : Word) :
    (Entry.timedOut first).isCurrent timeout block = true ↔ block ≤ barredUntil timeout first :=
  decide_eq_true_iff

/-- A check at a later block keeps in time what it does not forget. -/
theorem Entry.KeepsTime.expire {e : Entry} {current : Word} (h : e.KeepsTime timeout current)
    (hlater : current < block) (hstands : (e.expire timeout block).isCurrent timeout block = true) :
    (e.expire timeout block).KeepsTime timeout block := by
  cases e with
  | «open» c =>
    rw [Entry.expire] at hstands ⊢
    split at hstands <;> rename_i htimedOut
    · rw [if_pos htimedOut]
      exact ⟨of_decide_eq_true htimedOut, (isCurrent_mark ..).1 hstands⟩
    · rw [if_neg htimedOut]
      exact ⟨UInt64.le_trans h.1 (UInt64.le_of_lt hlater),
        UInt64.not_lt.1 (of_decide_eq_false (Bool.eq_false_iff.2 htimedOut))⟩
  | timedOut first =>
    exact ⟨UInt64.lt_trans h.1 hlater, (isCurrent_mark ..).1 hstands⟩

theorem mem_entries_expire {e : ChannelId × Entry} :
    e ∈ (t.expire block).2.entries ↔
      ∃ e' ∈ t.entries, e = (e'.1, e'.2.expire t.timeout block) ∧
        (e'.2.expire t.timeout block).isCurrent t.timeout block = true := by
  simp only [expire, List.mem_filter, List.mem_map]
  constructor
  · rintro ⟨⟨e', he', rfl⟩, hstands⟩
    exact ⟨e', he', rfl, hstands⟩
  · rintro ⟨e', he', rfl, hstands⟩
    exact ⟨⟨e', he', rfl⟩, hstands⟩

/-- Behind a check at a block, a mark stands if its id is still barred. -/
theorem find?_expire_mark (h : t.IsAscending) {first : Word}
    (hfind : t.find? id = some (.timedOut first)) (hbarred : block ≤ barredUntil t.timeout first) :
    (t.expire block).2.find? id = some (.timedOut first) := by
  rw [find?_expire h, hfind, Option.bind_some, age?_mark, if_pos ((isCurrent_mark ..).2 hbarred)]

/-- A channel that is open behind a check was open before. -/
theorem open_of_find?_expire (h : t.IsAscending) {c : OpenChannel}
    (hfind : (t.expire block).2.find? id = some (.open c)) : t.find? id = some (.open c) := by
  rw [find?_expire h, Option.bind_eq_some_iff] at hfind
  obtain ⟨c' | first, hentry, hage⟩ := hfind
  · rw [age?_open, age?_mark] at hage
    split at hage
    · split at hage <;> cases hage
    · cases hage
      exact hentry
  · rw [age?_mark] at hage
    split at hage <;> cases hage

end ChannelTable

namespace Intake
open ChannelTable (barredUntil)

variable {timeout : Word} {id : ChannelId} {first : Word} {s : Intake}

/-! ## Ids of channels that have timed out -/

/-- The id of a channel that was first seen in the block `first` and has timed out: as long as it is
barred, the mark stands, and a channel that has the id began later. -/
def Bars (timeout : Word) (id : ChannelId) (first : Word) (s : Intake) : Prop :=
  ∃ block, s.block? = some block ∧
    (block ≤ barredUntil timeout first → s.table.find? id = some (.timedOut first)) ∧
    ∀ c, s.table.find? id = some (.open c) → barredUntil timeout first < c.firstSeen

/-- A frame that is taken comes when the id of its channel is not barred any more. -/
theorem Bars.lt_of_beginsAt (h : s.Bars timeout id first) {f : Frame} (hf : f.channel = id)
    {source : L1Position} (hblock : s.block? = some source.block) {begun : Word}
    (hbegun : s.table.BeginsAt f source begun) : barredUntil timeout first < source.block := by
  subst hf
  obtain ⟨block, hreached, hmark, -⟩ := h
  cases hblock.symm.trans hreached
  refine UInt64.not_le.1 fun hle => ?_
  rcases hbegun with ⟨hnone, -⟩ | ⟨c, hc, -⟩
  · exact absurd (hnone.symm.trans (hmark hle)) nofun
  · exact absurd (hc.symm.trans (hmark hle)) nofun

/-- So does the first frame of its channel. -/
theorem Bars.lt_begun (h : s.Bars timeout id first) {f : Frame} (hf : f.channel = id)
    {source : L1Position} (hblock : s.block? = some source.block) {begun : Word}
    (hbegun : s.table.BeginsAt f source begun) : barredUntil timeout first < begun := by
  have hlt := h.lt_of_beginsAt hf hblock hbegun
  subst hf
  obtain ⟨-, -, -, hopen⟩ := h
  rcases hbegun with ⟨-, rfl⟩ | ⟨c, hc, rfl⟩
  · exact hlt
  · exact hopen c hc

/-- No frame is taken while the id is barred. -/
theorem Bars.add_eq_error (h : s.Bars timeout id first) {f : Frame} (hf : f.channel = id)
    {source : L1Position} (hblock : s.block? = some source.block)
    (hbarred : source.block ≤ barredUntil timeout first) :
    (s.table.add f source).1 = .error .timedOut := by
  subst hf
  obtain ⟨block, hreached, hmark, -⟩ := h
  cases hblock.symm.trans hreached
  rw [ChannelTable.add_of_timedOut (hmark hbarred)]

theorem Bars.moveTo (h : s.Bars s.table.timeout id first) (hs : s.table.IsAscending) {block : Word}
    (hlater : ∀ current, s.block? = some current → current < block) :
    (s.moveTo block).Bars s.table.timeout id first := by
  obtain ⟨current, hreached, hmark, hopen⟩ := h
  refine ⟨block, rfl, fun hbarred => ?_, fun c hc => ?_⟩
  · have hle := UInt64.le_trans (UInt64.le_of_lt (hlater current hreached)) hbarred
    exact ChannelTable.find?_expire_mark hs (hmark hle) hbarred
  · exact hopen c (ChannelTable.open_of_find?_expire hs hc)

/-- The check that gives up a channel bars its id, whether its mark stands behind the check or
not. -/
theorem bars_moveTo_of_open {c : OpenChannel} (hs : s.table.IsAscending)
    (hopen : s.table.find? id = some (.open c)) {block : Word}
    (htimedOut : c.isTimedOut block s.table.timeout = true) :
    (s.moveTo block).Bars s.table.timeout id c.firstSeen := by
  have hfind : (s.moveTo block).table.find? id =
      (Entry.timedOut c.firstSeen).age? s.table.timeout block := by
    show (s.table.expire block).2.find? id = _
    rw [ChannelTable.find?_expire hs, hopen, Option.bind_some, ChannelFate.age?_open,
      if_pos htimedOut]
  refine ⟨block, rfl, fun hbarred => ?_, fun c' hc' => ?_⟩
  · rw [hfind, ChannelFate.age?_mark, if_pos ((ChannelTable.isCurrent_mark ..).2 hbarred)]
  · rw [hfind, ChannelFate.age?_mark] at hc'
    split at hc' <;> cases hc'

theorem Bars.take (h : s.Bars timeout id first) {f : Frame} {source : L1Position}
    (hblock : s.block? = some source.block) : (s.take f source).Bars timeout id first := by
  by_cases hf : f.channel = id
  · have hbarred : ∀ begun, s.table.BeginsAt f source begun →
        ¬ source.block ≤ barredUntil timeout first := fun _ hbegun =>
      UInt64.not_le.2 (h.lt_of_beginsAt hf hblock hbegun)
    rcases s.table.add_cases f source with
      ⟨e, -, hadd⟩ | ⟨c, c', hmeets, hc', ⟨-, hadd⟩ | ⟨-, hadd⟩⟩
    · rw [Intake.take, hadd]
      exact h
    · have hbegun := hmeets.beginsAt hc'
      have hlate := hbarred _ hbegun
      refine ⟨source.block, hblock, fun hle => absurd hle hlate, fun waiting hfind => ?_⟩
      rw [Intake.take, hadd, hf, ChannelTable.find?_set_self] at hfind
      cases hfind
      exact h.lt_begun hf hblock hbegun
    · have hlate := hbarred _ (hmeets.beginsAt hc')
      refine ⟨source.block, hblock, fun hle => absurd hle hlate, fun waiting hfind => ?_⟩
      rw [Intake.take, hadd, hf, ChannelTable.find?_erase_self] at hfind
      exact absurd hfind nofun
  · have hfind := (ChannelTable.add_of_ne (t := s.table) hf source).1
    obtain ⟨block, hreached, hmark, hopen⟩ := h
    exact ⟨block, hreached, fun hle => hfind.trans (hmark hle),
      fun c hc => hopen c (hfind.symm.trans hc)⟩

/-! ## Step by step -/

/-- A frame that is taken comes in time for its channel. -/
theorem KeepsTime.of_beginsAt (h : s.KeepsTime timeout) {f : Frame} {source : L1Position}
    (hblock : s.block? = some source.block) {begun : Word}
    (hbegun : s.table.BeginsAt f source begun) :
    begun ≤ source.block ∧ source.block ≤ Word.addSat begun timeout := by
  rcases hbegun with ⟨-, rfl⟩ | ⟨c, hc, rfl⟩
  · exact ⟨UInt64.le_refl _, Word.le_addSat (Nat.le_add_right _ _)⟩
  · obtain ⟨block, hreached, hintime⟩ := h _ (ChannelTable.mem_of_find? hc)
    cases hblock.symm.trans hreached
    exact hintime

theorem KeepsTime.moveTo (h : s.KeepsTime s.table.timeout) {block : Word}
    (hlater : ∀ current, s.block? = some current → current < block) :
    (s.moveTo block).KeepsTime s.table.timeout := by
  intro e he
  obtain ⟨e', he', rfl, hstands⟩ := ChannelTable.mem_entries_expire.1 he
  obtain ⟨current, hreached, hintime⟩ := h e' he'
  exact ⟨block, rfl, hintime.expire (hlater current hreached) hstands⟩

theorem KeepsTime.take (h : s.KeepsTime timeout) {f : Frame} {source : L1Position}
    (hblock : s.block? = some source.block) : (s.take f source).KeepsTime timeout := by
  intro e he
  rcases s.table.add_cases f source with
    ⟨_, -, hadd⟩ | ⟨c, c', hmeets, hc', ⟨-, hadd⟩ | ⟨-, hadd⟩⟩ <;> rw [Intake.take, hadd] at he
  · exact h e he
  · rcases ChannelTable.mem_setEntry he with rfl | he
    · exact ⟨source.block, hblock, h.of_beginsAt hblock (hmeets.beginsAt hc')⟩
    · exact h e he
  · exact h e (List.mem_filter.1 he).1

theorem timeout_take (s : Intake) (f : Frame) (source : L1Position) :
    (s.take f source).table.timeout = s.table.timeout :=
  ChannelTable.timeout_add s.table f source

/-- Everything so far was in time, and whatever has timed out is barred. -/
structure OnTime (timeout : Word) (s : Intake) (rs : List Receipt) : Prop where
  timeout_eq : s.table.timeout = timeout
  entries : s.KeepsTime timeout
  closed : ∀ r ∈ rs, ∀ done, r.closed? = some done → done.KeepsTime timeout
  gone : ∀ d ∈ s.dropped, s.Bars timeout d.id d.firstSeen

theorem onTime_new (timeout : Word) : (new timeout).OnTime timeout [] where
  timeout_eq := rfl
  entries := nofun
  closed := nofun
  gone := nofun

theorem isKept_onTime (timeout : Word) : IsKept (OnTime timeout) where
  moveTo {s rs} block hs hlater h := by
    obtain ⟨rfl, hentries, hclosed, hgone⟩ := h
    refine ⟨rfl, hentries.moveTo hlater, hclosed, fun d hd => ?_⟩
    rcases List.mem_append.1 hd with hd | hd
    · exact (hgone d hd).moveTo hs hlater
    · obtain ⟨id, c, hmem, htimedOut, rfl⟩ := ChannelTable.mem_expired.1 hd
      exact bars_moveTo_of_open hs (hs.find?_of_mem hmem) htimedOut
  take {s rs} f source _ hblock h := by
    refine ⟨(timeout_take s f source).trans h.timeout_eq, h.entries.take hblock, ?_,
      fun d hd => (h.gone d hd).take hblock⟩
    rw [List.forall_mem_append, List.forall_mem_singleton]
    refine ⟨h.closed, fun done hdone => ?_⟩
    obtain ⟨hbegun, rfl, -⟩ := Receipt.of_closed? hdone
    exact h.entries.of_beginsAt hblock hbegun

/-- Since the channels `earlier` were given up, one of which had the id and was first seen in the
block `first`, nothing has come of the id that began while it was barred. -/
structure BarredSince (timeout : Word) (id : ChannelId) (first : Word)
    (earlier : List DroppedChannel) (s : Intake) (rs : List Receipt) : Prop where
  timeout_eq : s.table.timeout = timeout
  bars : s.Bars timeout id first
  refused : ∀ r ∈ rs, r.frame.channel = id → r.source.block ≤ barredUntil timeout first →
    r.result = .error .timedOut
  closed : ∀ r ∈ rs, ∀ done, r.closed? = some done → done.id = id →
    barredUntil timeout first < done.firstSeen
  dropped : ∃ given, s.dropped = earlier ++ given ∧
    ∀ d ∈ given, d.id = id → barredUntil timeout first < d.firstSeen

theorem isKept_barredSince (timeout : Word) (id : ChannelId) (first : Word)
    (earlier : List DroppedChannel) : IsKept (BarredSince timeout id first earlier) where
  moveTo {s rs} block hs hlater h := by
    obtain ⟨rfl, hbars, hrefused, hclosed, given, hdropped, hgiven⟩ := h
    refine ⟨rfl, hbars.moveTo hs hlater, hrefused, hclosed,
      given ++ (s.table.expire block).1, ?_, ?_⟩
    · rw [← List.append_assoc, ← hdropped]
      rfl
    · rw [List.forall_mem_append]
      refine ⟨hgiven, fun d hd hid => ?_⟩
      obtain ⟨id', c, hmem, -, rfl⟩ := ChannelTable.mem_expired.1 hd
      subst hid
      obtain ⟨-, -, -, hopen⟩ := hbars
      exact hopen c (hs.find?_of_mem hmem)
  take {s rs} f source _ hblock h := by
    refine ⟨(timeout_take s f source).trans h.timeout_eq, h.bars.take hblock, ?_, ?_, h.dropped⟩
    · rw [List.forall_mem_append, List.forall_mem_singleton]
      exact ⟨h.refused, fun hf => h.bars.add_eq_error hf hblock⟩
    · rw [List.forall_mem_append, List.forall_mem_singleton]
      refine ⟨h.closed, fun done hdone hid => ?_⟩
      obtain ⟨hbegun, -, hf⟩ := Receipt.of_closed? hdone
      exact h.bars.lt_begun (hf.symm.trans hid) hblock hbegun

/-! ## Every run -/

/-- Whatever is asked of the intake once a channel has timed out, its id is kept from being used
again too early. -/
structure KeepsOut (timeout : Word) (gone : DroppedChannel) (s : Intake) (calls : List Call) :
    Prop where
  /-- No frame of the id is taken while it is barred. -/
  refused : ∀ r ∈ (s.journal calls).receipts, r.frame.channel = gone.id →
    r.source.block ≤ barredUntil timeout gone.firstSeen → r.result = .error .timedOut
  /-- A channel with this id that is open began later than that. -/
  waiting : ∀ c, (gone.id, Entry.open c) ∈ (s.journal calls).intake.table.entries →
    barredUntil timeout gone.firstSeen < c.firstSeen
  /-- So did a channel with this id that has closed since. -/
  closed : ∀ done ∈ (s.journal calls).closed, done.id = gone.id →
    barredUntil timeout gone.firstSeen < done.firstSeen
  /-- So did a channel with this id that has been given up since. -/
  dropped : ∃ given, (s.journal calls).intake.dropped = s.dropped ++ given ∧
    ∀ d ∈ given, d.id = gone.id → barredUntil timeout gone.firstSeen < d.firstSeen

theorem keepsOut_of_bars {gone : DroppedChannel} (hs : s.table.IsAscending)
    (htimeout : s.table.timeout = timeout) (h : s.Bars timeout gone.id gone.firstSeen)
    (calls : List Call) : s.KeepsOut timeout gone calls := by
  have hstart : BarredSince timeout gone.id gone.firstSeen s.dropped s [] :=
    ⟨htimeout, h, nofun, nofun, [], (List.append_nil _).symm, nofun⟩
  obtain ⟨hsince, hs'⟩ := (isKept_barredSince ..).journal calls hs hstart
  refine ⟨hsince.refused, fun c hc => ?_, fun done hdone hid => ?_, hsince.dropped⟩
  · obtain ⟨-, -, -, hopen⟩ := hsince.bars
    exact hopen c (hs'.find?_of_mem hc)
  · obtain ⟨r, hr, hclosed⟩ :=
      List.mem_filterMap.1 ((closed_journal_perm s calls).mem_iff.1 hdone)
    exact hsince.closed r hr done hclosed hid

/-- **Timeouts over a whole run.**  Whatever is asked of the intake, refused or not, every channel
that is open or was closed is in time, every mark stands for as long as it should, and the id of a
channel that has timed out is barred from then on. -/
theorem journal_keepsTime (timeout : Word) (before after : List Call) :
    ((new timeout).journal before).intake.KeepsTime timeout ∧
      (∀ done ∈ ((new timeout).journal before).closed, done.KeepsTime timeout) ∧
      ∀ gone ∈ ((new timeout).journal before).intake.dropped,
        ((new timeout).journal before).intake.KeepsOut timeout gone after := by
  obtain ⟨htime, hs⟩ := (isKept_onTime timeout).journal before
    (ChannelTable.isAscending_new timeout) (onTime_new timeout)
  refine ⟨htime.entries, fun done hdone => ?_, fun gone hgone => ?_⟩
  · obtain ⟨r, hr, hclosed⟩ :=
      List.mem_filterMap.1 ((closed_journal_perm (new timeout) before).mem_iff.1 hdone)
    exact htime.closed r hr done hclosed
  · exact keepsOut_of_bars hs htime.timeout_eq (htime.gone gone hgone) after

/-- A channel that is found to have timed out. -/
def timedOutRun : List Call := [framesIn 5 [(1, 0, false)], .advance 8]

/-- Frames of its id: one while the id is barred, and one behind that. -/
def lateFrames : List Call := [framesIn 9 [(1, 0, false)], framesIn 10 [(1, 0, false)]]

theorem journal_keepsTime_lateFrames :
    ((new 2).journal timedOutRun).intake.dropped.map (·.firstSeen) = [5] ∧
      (((new 2).journal timedOutRun).intake.journal lateFrames).receipts.map
        (fun r => (r.source.block, r.opens, r.result.toOption.isSome)) =
          [(9, false, false), (10, true, true)] ∧
      ((new 2).journal timedOutRun).intake.KeepsTime 2 ∧
      ∀ gone ∈ ((new 2).journal timedOutRun).intake.dropped,
        ((new 2).journal timedOutRun).intake.KeepsOut 2 gone lateFrames := by
  obtain ⟨hentries, -, hgone⟩ := journal_keepsTime 2 timedOutRun lateFrames
  exact ⟨by cbv, by cbv, hentries, hgone⟩

end Intake
end BatchInbox
