import BatchInbox.Proofs.Assembly
import BatchInbox.Proofs.InPlace

/-!
# What waits in the table

An open channel is only told apart from a complete one by a count, and it is given an entry before
anybody has looked at its first frame.  Neither is written into its type: a channel without frames, or
one that misses nothing, would be an entry like any other.  It does not come to that.  Whatever is asked
of the table, in any order and with any arguments, every open channel in it holds a frame, and misses
one.

Most of it is known from what a channel is put together from.  What is left is that a channel which has
just taken a frame holds that frame, and that it would have left the table if it were complete.

## What is here

* `OpenChannel.frame?` — the frame that is stored under a number.
* `OpenChannel.IsWaiting` — a channel as it waits in the table.
* `OpenChannel.MadeFrom.isWaiting` — a channel that holds a frame and is not complete waits.
* `ChannelTable.isKept_unfinished` — the step; `ChannelTable.waits_afterInPlace` — every run.
-/

set_option autoImplicit false
namespace BatchInbox

/-! ## A channel -/

namespace OpenChannel
variable {c c' : OpenChannel} {f : Frame} {since : List Intake.Receipt}

/-- The frame that is stored under a number. -/
def frame? (c : OpenChannel) (number : UInt16) : Option Frame :=
  c.frames.find? (·.number = number)

/-- A channel as it waits in the table. -/
structure IsWaiting (c : OpenChannel) : Prop where
  nonempty : c.frames ≠ []
  ascending : c.frames.Pairwise (·.number < ·.number)
  /-- Each frame is stored under its own number. -/
  frame?_number : ∀ f ∈ c.frames, c.frame? f.number = some f
  /-- A number that is known to be the last is that of the only last frame.  No other number is
  behind it, and not all up to it are there. -/
  last : ∀ last, c.last? = some last → ∃ f, c.frame? last = some f ∧ f.isLast = true ∧
    (∀ g ∈ c.frames, g.isLast = true → g = f) ∧ (∀ g ∈ c.frames, g.number ≤ last) ∧
    c.frames.length < last.toNat + 1
  noLast : c.last? = none → ∀ f ∈ c.frames, f.isLast = false

/-- What waits misses a frame. -/
theorem IsWaiting.isComplete (h : c.IsWaiting) : c.isComplete = false := by
  cases hlast : c.last? with
  | none => simp [OpenChannel.isComplete, hlast]
  | some last =>
    obtain ⟨-, -, -, -, -, hlength⟩ := h.last last hlast
    simp [OpenChannel.isComplete, hlast, Nat.ne_of_lt hlength]

/-- Among frames with ascending numbers, each is the first with its number. -/
theorem frame?_of_mem (h : c.frames.Pairwise (·.number < ·.number)) (hf : f ∈ c.frames) :
    c.frame? f.number = some f := by
  obtain ⟨before, after, hframes⟩ := List.append_of_mem hf
  rw [hframes, List.pairwise_append] at h
  rw [frame?, hframes, List.find?_eq_some_iff_append]
  refine ⟨by simp, before, after, rfl, ?_⟩
  intro g hg
  have hlt := h.2.2 g hg f List.mem_cons_self
  simpa using UInt16.ne_of_lt hlt

/-- Frames with ascending numbers up to the last one are no more than these numbers. -/
theorem length_le_of_ascending {last : UInt16} (h : c.frames.Pairwise (·.number < ·.number))
    (hle : ∀ g ∈ c.frames, g.number ≤ last) : c.frames.length ≤ last.toNat + 1 := by
  rcases Nat.eq_zero_or_pos c.frames.length with hnone | hsome
  · omega
  · obtain ⟨k, hk⟩ := Nat.exists_eq_add_of_lt hsome
    have hcount := add_le_number h (i := 0) k (by omega)
    have hlast := hle _ (List.getElem_mem (show 0 + k < c.frames.length by omega))
    rw [UInt16.le_iff_toNat_le] at hlast
    omega

/-- **What a channel is put together from** says how it waits, if it holds a frame and misses one. -/
theorem MadeFrom.isWaiting (h : c.MadeFrom since) (hnonempty : c.frames ≠ [])
    (hincomplete : c.isComplete = false) : c.IsWaiting where
  nonempty := hnonempty
  ascending := h.ascending
  frame?_number f hf := frame?_of_mem h.ascending hf
  last last hlast := by
    obtain ⟨f, hf, hisLast, rfl⟩ := (h.last?_eq_some_iff last).1 hlast
    have hheld := (h.last?_eq hf hisLast).2
    have hle : ∀ g ∈ c.frames, g.number ≤ f.number := fun g hg => ((h.mem_iff g).1 hg).2 _ hlast
    refine ⟨f, frame?_of_mem h.ascending hheld, hisLast, ?_, hle, ?_⟩
    · intro g hg hgLast
      have hgtaken := ((h.mem_iff g).1 hg).1
      have hnumber := (h.last?_eq hgtaken hgLast).1.symm.trans hlast
      exact h.eq_of_number_eq hgtaken hf (Option.some.inj hnumber)
    · -- the count is not the one that completes the channel, and it cannot be larger
      have hcount := length_le_of_ascending h.ascending hle
      simp only [OpenChannel.isComplete, hlast, decide_eq_false_iff_not] at hincomplete
      omega
  noLast hnone f hf := by
    rw [← Bool.not_eq_true]
    intro hisLast
    have hlast := (h.last?_eq ((h.mem_iff f).1 hf).1 hisLast).1
    cases hnone.symm.trans hlast

end OpenChannel

/-! ## The table -/

namespace ChannelTable
open Intake (Receipt)

/-- Every open channel holds a frame and misses one. -/
def Unfinished (t : ChannelTable) (_ : List Receipt) : Prop :=
  ∀ id c, t.find? id = some (.open c) → c.frames ≠ [] ∧ c.isComplete = false

/-- **The step.**  A channel whose entry is set has just taken a frame, and was not complete. -/
theorem isKept_unfinished : IsKept Unfinished where
  add {t rs} f source ht h id c hfind := by
    by_cases hid : f.channel = id
    · subst hid
      rcases t.add_cases f source with ⟨e, -, hadd⟩ |
        ⟨c₀, c', -, hc', ⟨hincomplete, hadd⟩ | ⟨-, hadd⟩⟩ <;> rw [hadd] at hfind
      · exact h _ c hfind
      · rw [find?_set_self] at hfind
        cases hfind
        exact ⟨List.ne_nil_of_mem (OpenChannel.mem_of_add hc'), hincomplete⟩
      · rw [find?_erase_self] at hfind
        cases hfind
    · rw [(add_of_ne hid source).1] at hfind
      exact h id c hfind
  expire block ht h id c hfind := h id c (open_of_find?_expire ht hfind)
  new timeout rs id c hfind := by cases hfind

/-- Every open channel waits, whatever was asked of the table. -/
theorem isWaiting_after (timeout : Word) (calls : List Call) {id : ChannelId} {c : OpenChannel}
    (h : ((new timeout).after calls).find? id = some (.open c)) : c.IsWaiting := by
  have hnew := isAscending_new timeout
  have hunfinished := isKept_unfinished.after calls hnew (isKept_unfinished.new timeout [])
  have hexplained := isKept_explained.after calls hnew (isKept_explained.new timeout [])
  obtain ⟨hnonempty, hincomplete⟩ := hunfinished id c h
  obtain ⟨opening, later, -, -, hmade⟩ := hexplained id c h
  exact hmade.isWaiting hnonempty hincomplete

/-! ## In place -/

/-- The table when it has done in place what is asked. -/
def Call.runInPlace (t : ChannelTable) : Call → ChannelTable
  | add f source => ((addInPlace f source).step t).2
  | expire block => (t.expire block).2
  | finish block => (t.finish block).2

/-- The table when it has done in place all that is asked. -/
def afterInPlace (t : ChannelTable) (calls : List Call) : ChannelTable :=
  calls.foldl Call.runInPlace t

theorem IsAscending.runInPlace_eq {t : ChannelTable} (h : t.IsAscending) (call : Call) :
    call.runInPlace t = call.run t := by
  cases call with
  | add f source => rw [Call.runInPlace, Call.run, step_addInPlace h]
  | expire block => rfl
  | finish block => rfl

/-- Done in place, it comes to the same. -/
theorem IsAscending.afterInPlace_eq {t : ChannelTable} (h : t.IsAscending) (calls : List Call) :
    t.afterInPlace calls = t.after calls := by
  induction calls generalizing t with
  | nil => rfl
  | cons call calls ih =>
    simp only [afterInPlace, List.foldl_cons, h.runInPlace_eq call]
    exact ih (h.run call)

/-- A frame of a channel without an entry is taken. -/
theorem exists_addInPlace {t : ChannelTable} (h : t.IsAscending) {f : Frame}
    (hnone : t.find? f.channel = none) (source : L1Position) :
    ∃ closed? t', (addInPlace f source).step t = (.ok closed?, t') := by
  rw [step_addInPlace h]
  rcases t.add_cases f source with ⟨e, hentry, -⟩ | ⟨c, c', -, -, ⟨-, hadd⟩ | ⟨-, hadd⟩⟩
  · exact absurd hnone hentry
  · exact ⟨none, _, hadd⟩
  · exact ⟨some _, _, hadd⟩

/-- **What waits in the table.**  Whatever is asked of a table that works in place, in any order and with
any arguments, every open channel in it waits, so none of them is complete, and the first frame of a
channel that has no entry is taken. -/
theorem waits_afterInPlace (timeout : Word) (calls : List Call) :
    (new timeout).afterInPlace calls = (new timeout).after calls ∧
      (∀ id c, (id, .open c) ∈ ((new timeout).afterInPlace calls).entries →
        c.IsWaiting ∧ c.isComplete = false) ∧
      ∀ f source, ((new timeout).afterInPlace calls).find? f.channel = none →
        ∃ closed? t',
          (addInPlace f source).step ((new timeout).afterInPlace calls) = (.ok closed?, t') := by
  have hsame := (isAscending_new timeout).afterInPlace_eq calls
  have hascending := (isAscending_new timeout).after calls
  rw [hsame]
  refine ⟨rfl, ?_, ?_⟩
  · intro id c hmem
    have hwaiting := isWaiting_after timeout calls (hascending.find?_of_mem hmem)
    exact ⟨hwaiting, hwaiting.isComplete⟩
  · intro f source hnone
    exact exists_addInPlace hascending hnone source

/-- The channel that misses its second frame, and knows that it has three. -/
def gappedChannel : OpenChannel :=
  ⟨12, [emptyFrame 7 0 false, emptyFrame 7 2 true], some 2⟩

theorem waits_afterInPlace_unfinishedRun :
    ((new 10).afterInPlace unfinishedRun).entries =
        [((emptyFrame 7 0 false).channel, .open gappedChannel),
          ((emptyFrame 8 0 false).channel, .timedOut 3)] ∧
      gappedChannel.IsWaiting ∧ gappedChannel.isComplete = false ∧
      ∃ closed? t', (addInPlace (emptyFrame 9 5 false) ⟨14, 0⟩).step
        ((new 10).afterInPlace unfinishedRun) = (.ok closed?, t') := by
  have hentries : ((new 10).afterInPlace unfinishedRun).entries =
      [((emptyFrame 7 0 false).channel, .open gappedChannel),
        ((emptyFrame 8 0 false).channel, .timedOut 3)] := by cbv
  obtain ⟨-, hwaits, hfirst⟩ := waits_afterInPlace 10 unfinishedRun
  obtain ⟨hwaiting, hincomplete⟩ := hwaits _ gappedChannel (hentries ▸ List.mem_cons_self)
  exact ⟨hentries, hwaiting, hincomplete, hfirst _ _ (by cbv)⟩

end ChannelTable
end BatchInbox
