import BatchInbox.Proofs.TableRun
import BatchInbox.Proofs.Timeouts

/-!
# What a channel is put together from

Anybody can send frames for a channel that is open: frames with numbers that it has already, a second
last frame, or frames behind the last one, before or after that one is known.  The table only counts
the frames that a channel holds.  Still a channel that closes holds one frame for each number up to the
last, and of every number the first that was not refused.

Why the count is enough: a channel holds no two frames with one number, and no frame behind the last,
since those that came too early are thrown away with it.  So as many frames as there are numbers are
one for each.

## What is here

* `Intake.Receipt.isTaken`, `ChannelTable.taken` — the frames that were not refused.
* `ChannelTable.SinceOpening` — the receipts of a channel from where it was last opened.
* `OpenChannel.MadeFrom` — what an open channel holds, told by these receipts; `MadeFrom.take` and
  `MadeFrom.refuse` are the steps, `ChannelTable.isKept_explained` is the invariant of the table.
* `OpenChannel.MadeFrom.number_eq` — why the count is enough.
* `ChannelTable.Assembles`, `ChannelTable.assembles_of_add` — what a channel that closes is put
  together from.
-/

set_option autoImplicit false
namespace BatchInbox

open Intake (Receipt)

/-- The frame was not refused. -/
def Intake.Receipt.isTaken (r : Receipt) : Bool := r.result.isOk

namespace ChannelTable

/-! ## Since the opening -/

/-- The frames that were not refused. -/
def taken (rs : List Receipt) : List Frame := (rs.filter (·.isTaken)).map (·.frame)

theorem taken_append (rs rs' : List Receipt) : taken (rs ++ rs') = taken rs ++ taken rs' := by
  rw [taken, List.filter_append, List.map_append]
  rfl

theorem taken_of_isTaken (rs : List Receipt) {r : Receipt} (h : r.isTaken = true) :
    taken (rs ++ [r]) = taken rs ++ [r.frame] := by
  simp [taken, h]

theorem taken_of_refused (rs : List Receipt) {r : Receipt} (h : r.isTaken = false) :
    taken (rs ++ [r]) = taken rs := by
  simp [taken, h]

/-- Of the receipts of a channel, these are the last one that opened it and those behind that. -/
structure SinceOpening (id : ChannelId) (rs : List Receipt) (opening : Receipt)
    (later : List Receipt) : Prop where
  own : ∃ before, rs.filter (·.frame.channel = id) = before ++ opening :: later
  opens : opening.opens = true
  others : ∀ r ∈ later, r.opens = false

section
variable {id : ChannelId} {rs later : List Receipt} {opening r : Receipt}

theorem SinceOpening.of_ne (h : SinceOpening id rs opening later) (hr : r.frame.channel ≠ id) :
    SinceOpening id (rs ++ [r]) opening later where
  own := by
    obtain ⟨before, hbefore⟩ := h.own
    exact ⟨before, by simp [hbefore, hr]⟩
  opens := h.opens
  others := h.others

theorem SinceOpening.snoc (h : SinceOpening id rs opening later) (hr : r.frame.channel = id)
    (hopens : r.opens = false) : SinceOpening id (rs ++ [r]) opening (later ++ [r]) where
  own := by
    obtain ⟨before, hbefore⟩ := h.own
    exact ⟨before, by simp [hbefore, hr]⟩
  opens := h.opens
  others := by
    rw [List.forall_mem_append]
    exact ⟨h.others, by simpa using hopens⟩

theorem sinceOpening_of_opens (rs : List Receipt) (hr : r.frame.channel = id)
    (hopens : r.opens = true) : SinceOpening id (rs ++ [r]) r [] where
  own := ⟨rs.filter (·.frame.channel = id), by simp [hr]⟩
  opens := hopens
  others := nofun

end

/-- Of the receipts since the opening of a channel, these frames are what it is put together from. -/
structure Assembles (since : List Receipt) (frames : List Frame) : Prop where
  number_eq : ∀ i (hi : i < frames.length), frames[i].number.toNat = i
  isLast_iff : ∀ i (hi : i < frames.length), frames[i].isLast = true ↔ i + 1 = frames.length
  /-- No other frame with the number of one of them was taken. -/
  alone : ∀ g ∈ frames, (taken since).filter (·.number = g.number) = [g]
  /-- A frame with the number of one of them was refused only behind that one, or as a second last
  frame. -/
  refused : ∀ before r after, since = before ++ r :: after → r.isTaken = false →
    ∀ g ∈ frames, g.number = r.frame.number →
      g ∈ taken before ∨ r.frame.isLast = true ∧ ∃ last ∈ frames, last.isLast = true ∧
        last ∈ taken before

end ChannelTable

open ChannelTable (taken taken_append taken_of_isTaken taken_of_refused SinceOpening Assembles)

/-! ## An open channel -/

/-- The frame comes too late, behind these that were taken: one of them has its number, or one is the
last and this one is another, or comes behind it. -/
def Intake.Receipt.IsLate (r : Receipt) (before : List Frame) : Prop :=
  (∃ g ∈ before, g.number = r.frame.number) ∨
    ∃ last ∈ before, last.isLast = true ∧ (r.frame.isLast = true ∨ last.number < r.frame.number)

namespace OpenChannel
variable {c c' : OpenChannel} {f : Frame} {since : List Receipt} {r : Receipt}

/-- Only frames that came too late were refused. -/
def RefusedLate (since : List Receipt) : Prop :=
  ∀ before r after, since = before ++ r :: after → r.isTaken = false → r.IsLate (taken before)

/-- The receipts tell what the channel holds. -/
structure MadeFrom (c : OpenChannel) (since : List Receipt) : Prop where
  ascending : c.frames.Pairwise (·.number < ·.number)
  /-- Frames behind the last one are thrown away. -/
  mem_iff : ∀ f, f ∈ c.frames ↔ f ∈ taken since ∧ ∀ last, c.last? = some last → f.number ≤ last
  /-- No number was taken twice, not even one that was thrown away. -/
  distinct : (taken since).Pairwise (·.number ≠ ·.number)
  last?_eq_some_iff : ∀ last, c.last? = some last ↔
    ∃ f ∈ taken since, f.isLast = true ∧ f.number = last
  refusedLate : RefusedLate since

theorem madeFrom_new (first : Word) : (new first).MadeFrom [] where
  ascending := List.Pairwise.nil
  mem_iff f := by simp [new, taken]
  distinct := List.Pairwise.nil
  last?_eq_some_iff last := by simp [new, taken]
  refusedLate before r after h := by simp at h

theorem mem_insertFrame {g : Frame} {frames : List Frame} :
    g ∈ insertFrame f frames ↔ g = f ∨ g ∈ frames := by
  rw [(insertFrame_perm f frames).mem_iff, List.mem_cons]

/-- Of receipts with one more behind them, each is that one or one of the others. -/
theorem RefusedLate.snoc (h : RefusedLate since) (hr : r.isTaken = false → r.IsLate (taken since)) :
    RefusedLate (since ++ [r]) := by
  intro before r' after heq hr'
  rcases List.eq_nil_or_concat after with rfl | ⟨after, last, rfl⟩
  · obtain ⟨rfl, hlast⟩ := List.append_inj' heq rfl
    cases hlast
    exact hr hr'
  · have hsplit : since ++ [r] = (before ++ r' :: after) ++ [last] := by simpa using heq
    exact h before r' after (List.append_inj' hsplit rfl).1 hr'

/-- No frame that was taken has the number of one that is taken now: neither one that the channel holds,
nor one that was thrown away. -/
theorem MadeFrom.number_ne (h : c.MadeFrom since) (hfresh : ∀ g ∈ c.frames, g.number ≠ f.number)
    (hle : ∀ last, c.last? = some last → f.number ≤ last) : ∀ g ∈ taken since, g.number ≠ f.number := by
  intro g hg heq
  refine hfresh g ((h.mem_iff g).2 ⟨hg, fun last hlast => ?_⟩) heq
  rw [heq]
  exact hle last hlast

/-- A frame with a new number keeps the numbers different, and a frame that is taken needs no excuse. -/
theorem MadeFrom.snoc (h : c.MadeFrom since) (hne : ∀ g ∈ taken since, g.number ≠ r.frame.number)
    (htaken : r.isTaken = true) :
    (taken (since ++ [r])).Pairwise (·.number ≠ ·.number) ∧ RefusedLate (since ++ [r]) := by
  constructor
  · rw [taken_of_isTaken since htaken]
    refine List.pairwise_append.2 ⟨h.distinct, List.pairwise_singleton .., fun g hg k hk => ?_⟩
    rw [List.mem_singleton.1 hk]
    exact hne g hg
  · refine h.refusedLate.snoc fun hrefused => ?_
    cases htaken.symm.trans hrefused

/-- The last frame is taken, and those behind it are thrown away. -/
theorem MadeFrom.takeLast (h : c.MadeFrom since) (hfresh : ∀ g ∈ c.frames, g.number ≠ r.frame.number)
    (hlast : c.last? = none) (hr : r.frame.isLast = true) (htaken : r.isTaken = true) :
    MadeFrom
      { c with
        frames := insertFrame r.frame (c.frames.filter (·.number < r.frame.number))
        last? := some r.frame.number } (since ++ [r]) := by
  have hall : ∀ g, g ∈ c.frames ↔ g ∈ taken since := fun g => by
    simp [h.mem_iff, hlast]
  have hne : ∀ g ∈ taken since, g.number ≠ r.frame.number := fun g hg => hfresh g ((hall g).2 hg)
  have hnone : ∀ g ∈ taken since, g.isLast = false := fun g hg => by
    refine Bool.eq_false_iff.2 fun hisLast => ?_
    cases hlast.symm.trans ((h.last?_eq_some_iff _).2 ⟨g, hg, hisLast, rfl⟩)
  obtain ⟨hdistinct, hrefused⟩ := h.snoc hne htaken
  refine ⟨pairwise_insertFrame (h.ascending.filter _) fun g hg => hfresh g (List.mem_filter.1 hg).1,
    fun g => ?_, hdistinct, fun last => ?_, hrefused⟩ <;> rw [taken_of_isTaken since htaken]
  · rw [mem_insertFrame, List.mem_filter, hall, decide_eq_true_eq, List.mem_append,
      List.mem_singleton]
    constructor
    · rintro (rfl | ⟨hg, hlt⟩)
      · exact ⟨.inr rfl, fun last hsome => UInt16.le_of_eq (Option.some.inj hsome)⟩
      · refine ⟨.inl hg, fun last hsome => ?_⟩
        rw [← Option.some.inj hsome]
        exact UInt16.le_of_lt hlt
    · rintro ⟨hg | rfl, hle⟩
      · exact .inr ⟨hg, UInt16.lt_of_le_of_ne (hle _ rfl) (hne g hg)⟩
      · exact .inl rfl
  · simp only [List.mem_append, or_and_right, exists_or]
    constructor
    · intro hsome
      exact .inr ⟨_, List.mem_singleton_self _, hr, Option.some.inj hsome⟩
    · rintro (⟨g, hg, hisLast, -⟩ | ⟨g, hg, -, rfl⟩)
      · rw [hnone g hg] at hisLast
        exact absurd hisLast Bool.false_ne_true
      · rw [List.mem_singleton.1 hg]

/-- Another frame is taken if it is not behind the last one. -/
theorem MadeFrom.takeInner (h : c.MadeFrom since) (hfresh : ∀ g ∈ c.frames, g.number ≠ r.frame.number)
    (hle : ∀ last, c.last? = some last → r.frame.number ≤ last) (hr : r.frame.isLast = false)
    (htaken : r.isTaken = true) :
    MadeFrom { c with frames := insertFrame r.frame c.frames } (since ++ [r]) := by
  obtain ⟨hdistinct, hrefused⟩ := h.snoc (h.number_ne hfresh hle) htaken
  refine ⟨pairwise_insertFrame h.ascending hfresh, fun g => ?_, hdistinct, fun last => ?_,
    hrefused⟩ <;> rw [taken_of_isTaken since htaken]
  · rw [mem_insertFrame, h.mem_iff, List.mem_append, List.mem_singleton]
    constructor
    · rintro (rfl | ⟨hg, hg'⟩)
      · exact ⟨.inr rfl, hle⟩
      · exact ⟨.inl hg, hg'⟩
    · rintro ⟨hg | rfl, hg'⟩
      · exact .inr ⟨hg, hg'⟩
      · exact .inl rfl
  · simp only [h.last?_eq_some_iff, List.mem_append, or_and_right, exists_or]
    constructor
    · exact .inl
    · rintro (hg | ⟨g, hg, hisLast, -⟩)
      · exact hg
      · rw [List.mem_singleton.1 hg, hr] at hisLast
        exact absurd hisLast Bool.false_ne_true

/-- **A frame that is taken.** -/
theorem MadeFrom.take (h : c.MadeFrom since) (hadd : c.add r.frame = .ok c')
    (htaken : r.isTaken = true) : c'.MadeFrom (since ++ [r]) := by
  have hanswer := c.answer_add r.frame
  rw [hadd] at hanswer
  cases hanswer with
  | last hfresh hlast hr => exact h.takeLast hfresh hlast hr htaken
  | inner hfresh hle hr => exact h.takeInner hfresh hle hr htaken

/-- **A frame that is refused.** -/
theorem MadeFrom.refuse (h : c.MadeFrom since) {e : ChannelError} (hadd : c.add r.frame = .error e)
    (hrefused : r.isTaken = false) : c.MadeFrom (since ++ [r]) := by
  have hanswer := c.answer_add r.frame
  rw [hadd] at hanswer
  have hlate : r.IsLate (taken since) := by
    cases hanswer with
    | duplicate hg hnumber => exact .inl ⟨_, ((h.mem_iff _).1 hg).1, hnumber⟩
    | secondLast hlast hf =>
      obtain ⟨g, hg, hisLast, -⟩ := (h.last?_eq_some_iff _).1 hlast
      exact .inr ⟨g, hg, hisLast, .inl hf⟩
    | behindLast hlast hlt =>
      obtain ⟨g, hg, hisLast, rfl⟩ := (h.last?_eq_some_iff _).1 hlast
      exact .inr ⟨g, hg, hisLast, .inr hlt⟩
  refine ⟨h.ascending, ?_, ?_, ?_, h.refusedLate.snoc fun _ => hlate⟩ <;>
    rw [taken_of_refused since hrefused]
  · exact h.mem_iff
  · exact h.distinct
  · exact h.last?_eq_some_iff

/-! ## A complete channel -/

/-- Numbers that ascend do so by one at least. -/
theorem add_le_number {frames : List Frame} (h : frames.Pairwise (·.number < ·.number)) {i : Nat} :
    ∀ k (hk : i + k < frames.length), frames[i].number.toNat + k ≤ frames[i + k].number.toNat
  | 0, _ => Nat.le_refl _
  | k + 1, hk => by
    have ih := add_le_number h (i := i) k (by omega)
    have hlt := List.pairwise_iff_getElem.1 h (i + k) (i + (k + 1)) (by omega) hk (by omega)
    rw [UInt16.lt_iff_toNat_lt] at hlt
    omega

theorem last_of_isComplete (h : c.isComplete = true) :
    ∃ last, c.last? = some last ∧ c.frames.length = last.toNat + 1 := by
  rw [isComplete] at h
  split at h
  · exact absurd h Bool.false_ne_true
  · rename_i last hlast
    exact ⟨last, hlast, of_decide_eq_true h⟩

/-- **The count is enough.**  A channel that holds as many frames as there are numbers up to the last
holds one for each. -/
theorem MadeFrom.number_eq (h : c.MadeFrom since) (hcomplete : c.isComplete = true) {i : Nat}
    (hi : i < c.frames.length) : c.frames[i].number.toNat = i := by
  obtain ⟨last, hlast, hlength⟩ := last_of_isComplete hcomplete
  obtain ⟨k, hk⟩ := Nat.exists_eq_add_of_lt hi
  have hlower := add_le_number h.ascending (i := 0) i (by omega)
  have hupper := add_le_number h.ascending (i := i) k (by omega)
  have hle := ((h.mem_iff _).1 (List.getElem_mem (by omega : i + k < c.frames.length))).2 last hlast
  rw [UInt16.le_iff_toNat_le] at hle
  simp only [Nat.zero_add] at hlower
  omega

/-- Of frames with different numbers, a number has one at most. -/
theorem filter_number_eq {frames : List Frame} (h : frames.Pairwise (·.number ≠ ·.number))
    (hf : f ∈ frames) : frames.filter (·.number = f.number) = [f] := by
  obtain ⟨before, after, rfl⟩ := List.append_of_mem hf
  rw [List.pairwise_append, List.pairwise_cons] at h
  obtain ⟨-, ⟨hafter, -⟩, hbefore⟩ := h
  have hnone : ∀ g ∈ before, g.number ≠ f.number := fun g hg =>
    hbefore g hg f List.mem_cons_self
  have hnone' : ∀ g ∈ after, g.number ≠ f.number := fun g hg => (hafter g hg).symm
  rw [List.filter_append, List.filter_eq_nil_iff.2 (by simpa using hnone),
    List.filter_cons_of_pos (by simp), List.filter_eq_nil_iff.2 (by simpa using hnone')]
  rfl

/-- No two frames that were taken have one number. -/
theorem MadeFrom.eq_of_number_eq (h : c.MadeFrom since) {g : Frame} (hf : f ∈ taken since)
    (hg : g ∈ taken since) (hnumber : f.number = g.number) : f = g :=
  List.inj_on_of_nodup_map (List.pairwise_map.2 h.distinct) hf hg hnumber

theorem mem_of_add (h : c.add f = .ok c') : f ∈ c'.frames := by
  have hanswer := c.answer_add f
  rw [h] at hanswer
  cases hanswer <;> exact mem_insertFrame.2 (.inl rfl)

/-- A last frame that was taken is the one that the channel knows of, and was not thrown away. -/
theorem MadeFrom.last?_eq (h : c.MadeFrom since) {last : Frame} (hlast : last ∈ taken since)
    (hisLast : last.isLast = true) : c.last? = some last.number ∧ last ∈ c.frames := by
  have hsome := (h.last?_eq_some_iff _).2 ⟨last, hlast, hisLast, rfl⟩
  refine ⟨hsome, (h.mem_iff last).2 ⟨hlast, fun number hnumber => ?_⟩⟩
  exact UInt16.le_of_eq (Option.some.inj (hsome.symm.trans hnumber))

/-- A complete channel has one frame that says it is the last: the one with the largest number. -/
theorem MadeFrom.isLast_iff (h : c.MadeFrom since) (hcomplete : c.isComplete = true) {i : Nat}
    (hi : i < c.frames.length) : c.frames[i].isLast = true ↔ i + 1 = c.frames.length := by
  obtain ⟨last, hlast, hlength⟩ := last_of_isComplete hcomplete
  have hnumber := h.number_eq hcomplete hi
  have hmem := ((h.mem_iff _).1 (List.getElem_mem hi)).1
  constructor
  · intro hisLast
    rw [Option.some.inj (hlast.symm.trans (h.last?_eq hmem hisLast).1), hnumber] at hlength
    exact hlength.symm
  · intro hend
    obtain ⟨g, hg, hisLast, hglast⟩ := (h.last?_eq_some_iff last).1 hlast
    have hsame : g.number = c.frames[i].number := by
      rw [hglast, ← UInt16.toNat_inj]
      omega
    rw [← h.eq_of_number_eq hg hmem hsame]
    exact hisLast

/-- Why a frame was refused that has the number of one that a channel holds. -/
theorem MadeFrom.refused_of_mem (h : c.MadeFrom since) {before after : List Receipt}
    (hsince : since = before ++ r :: after) (hrefused : r.isTaken = false) (hf : f ∈ c.frames)
    (hnumber : f.number = r.frame.number) :
    f ∈ taken before ∨ r.frame.isLast = true ∧ ∃ last ∈ c.frames, last.isLast = true ∧
      last ∈ taken before := by
  obtain ⟨hftaken, hfle⟩ := (h.mem_iff f).1 hf
  have hearlier : ∀ g ∈ taken before, g ∈ taken since := fun g hg => by
    rw [hsince, taken_append]
    exact List.mem_append_left _ hg
  rcases h.refusedLate before r after hsince hrefused with ⟨g, hg, hgnumber⟩ | ⟨g, hg, hisLast, hwhy⟩
  · rw [← h.eq_of_number_eq (hearlier g hg) hftaken (hgnumber.trans hnumber.symm)]
    exact .inl hg
  · obtain ⟨hlast, hheld⟩ := h.last?_eq (hearlier g hg) hisLast
    rcases hwhy with hsecond | hbehind
    · exact .inr ⟨hsecond, g, hheld, hisLast, hg⟩
    · rw [← hnumber] at hbehind
      exact absurd (hfle _ hlast) (UInt16.not_le.2 hbehind)

/-- **A complete channel** is put together from the frames that it holds. -/
theorem MadeFrom.assembles (h : c.MadeFrom since) (hcomplete : c.isComplete = true) :
    Assembles since c.frames where
  number_eq _ hi := h.number_eq hcomplete hi
  isLast_iff _ hi := h.isLast_iff hcomplete hi
  alone g hg := filter_number_eq h.distinct ((h.mem_iff g).1 hg).1
  refused _ _ _ hsince hrefused _ hg hnumber := h.refused_of_mem hsince hrefused hg hnumber

end OpenChannel

namespace ChannelTable
variable {t t' : ChannelTable} {rs : List Receipt} {f : Frame} {source : L1Position}

/-! ## The table -/

/-- The receipts since the opening of a channel tell when it was first seen and what it holds. -/
def Explains (rs : List Receipt) (id : ChannelId) (c : OpenChannel) : Prop :=
  ∃ opening later, SinceOpening id rs opening later ∧ opening.source.block = c.firstSeen ∧
    c.MadeFrom (opening :: later)

/-- So they do for every open channel. -/
def Explained (t : ChannelTable) (rs : List Receipt) : Prop :=
  ∀ id c, t.find? id = some (.open c) → Explains rs id c

/-- A frame that is taken begins its channel, or comes behind what the channel has had. -/
theorem Explained.take (h : t.Explained rs) {c c' : OpenChannel} (hmeets : t.Meets f source c)
    (hc' : c.add f = .ok c') (htaken : (Receipt.of t f source).isTaken = true) :
    Explains (rs ++ [.of t f source]) f.channel c' := by
  rw [Explains, OpenChannel.firstSeen_of_add hc']
  rcases hmeets with ⟨hnone, rfl⟩ | hopen
  · refine ⟨.of t f source, [], sinceOpening_of_opens rs rfl ?_, rfl, ?_⟩
    · rw [Receipt.opens, Receipt.of, hnone]
      rfl
    · exact (OpenChannel.madeFrom_new source.block).take hc' htaken
  · obtain ⟨opening, later, hsince, hfirst, hmade⟩ := h _ c hopen
    refine ⟨opening, later ++ [.of t f source], hsince.snoc rfl ?_, hfirst, ?_⟩
    · rw [Receipt.opens, Receipt.of, hopen]
      rfl
    · exact hmade.take hc' htaken

/-- A channel that refuses a frame is still explained. -/
theorem Explained.refuse (h : t.Explained rs) {c : OpenChannel} {e : ChannelError}
    (hopen : t.find? f.channel = some (.open c)) (hadd : t.add f source = (.error e, t)) :
    Explains (rs ++ [.of t f source]) f.channel c := by
  obtain ⟨opening, later, hsince, hfirst, hmade⟩ := h _ c hopen
  refine ⟨opening, later ++ [.of t f source], hsince.snoc rfl ?_, hfirst, ?_⟩
  · rw [Receipt.opens, Receipt.of, hopen]
    rfl
  · have hrefused : (Receipt.of t f source).isTaken = false := by
      rw [Receipt.isTaken, Receipt.of, hadd]
      rfl
    rw [Meets.add_eq (.inr hopen), addTo] at hadd
    cases hc' : c.add f with
    | error e' => exact hmade.refuse hc' hrefused
    | ok c' =>
      simp only [hc'] at hadd
      split at hadd <;> cases (Prod.mk.inj hadd).1

/-- **The step.**  What is asked of the table keeps every open channel explained. -/
theorem isKept_explained : IsKept Explained where
  add {t rs} f source ht h id c hfind := by
    by_cases hid : f.channel = id
    · subst hid
      rcases t.add_cases f source with ⟨e, -, hadd⟩ | ⟨c₀, c', hmeets, hc', ⟨-, hadd⟩ | ⟨-, hadd⟩⟩
      · rw [hadd] at hfind
        exact h.refuse hfind hadd
      · rw [hadd, find?_set_self] at hfind
        cases hfind
        exact h.take hmeets hc' (by rw [Receipt.isTaken, Receipt.of, hadd]; rfl)
      · rw [hadd, find?_erase_self] at hfind
        cases hfind
    · rw [(add_of_ne hid source).1] at hfind
      obtain ⟨opening, later, hsince, hspec⟩ := h id c hfind
      exact ⟨opening, later, hsince.of_ne hid, hspec⟩
  expire block ht h id c hfind := h id c (open_of_find?_expire ht hfind)
  new timeout rs id c hfind := by cases hfind

/-! ## A channel that closes -/

/-- **A channel that closes.**  Whatever was asked of the table before, there are frames, numbered from
zero, that were taken since the channel was opened, of which the last one says that it is, and the one
that completes the channel is among them.  The channel has their data in this order, and it is not in
the table any more. -/
theorem assembles_of_add (timeout : Word) (calls : List Call) (f : Frame) (source : L1Position)
    (closed : ClosedChannel) (t' : ChannelTable)
    (h : ((new timeout).after calls).add f source = (.ok (some closed), t')) :
    ∃ opening later frames,
      SinceOpening f.channel ((new timeout).receipts (calls ++ [.add f source])) opening later ∧
      Assembles (opening :: later) frames ∧ f ∈ frames ∧
      closed = ⟨f.channel, opening.source.block, source, frames.length, frames.flatMap (·.data)⟩ ∧
      t'.find? f.channel = none := by
  have hexplained := isKept_explained.after calls (isAscending_new timeout)
    (isKept_explained.new timeout [])
  rw [List.nil_append] at hexplained
  rw [receipts_append]
  generalize (new timeout).after calls = t at h hexplained
  rcases t.add_cases f source with ⟨e, -, hadd⟩ | ⟨c, c', hmeets, hc', ⟨-, hadd⟩ | ⟨hcomplete, hadd⟩⟩
  · exact absurd (Prod.mk.inj (h.symm.trans hadd)).1 nofun
  · exact absurd (Prod.mk.inj (h.symm.trans hadd)).1 nofun
  · obtain ⟨opening, later, hsince, hfirst, hmade⟩ :=
      hexplained.take hmeets hc' (by rw [Receipt.isTaken, Receipt.of, hadd]; rfl)
    rw [hadd] at h
    cases h
    refine ⟨opening, later, c'.frames, hsince, hmade.assembles hcomplete, OpenChannel.mem_of_add hc',
      ?_, find?_erase_self t f.channel⟩
    rw [hfirst]
    rfl

/-- A frame of a channel for which others send frames, too. -/
def contestedFrame (number : UInt16) (data : Bytes) (isLast : Bool) : Frame :=
  ⟨⟨7 :: List.replicate 15 0, rfl⟩, number, data, isLast⟩

/-- A channel of three frames that is opened for the second time.  Of its frames, one comes with a
number that is too large, one twice with other data, one behind the last, and one as a second last
frame. -/
def contestedRun : List Call :=
  [.add (contestedFrame 0 [50] true) ⟨3, 0⟩, .add (contestedFrame 5 [55] false) ⟨4, 0⟩,
    .add (contestedFrame 1 [1] false) ⟨4, 1⟩, .expire 5, .add (contestedFrame 1 [51] false) ⟨5, 0⟩,
    .add (contestedFrame 2 [2] true) ⟨5, 0⟩, .add (contestedFrame 3 [53] false) ⟨5, 1⟩,
    .add (contestedFrame 0 [50] true) ⟨6, 0⟩]

theorem assembles_of_add_contestedRun :
    (((new 10).after contestedRun).add (contestedFrame 0 [0] false) ⟨7, 0⟩).1 =
        .ok (some ⟨⟨7 :: List.replicate 15 0, rfl⟩, 4, ⟨7, 0⟩, 3, [0, 1, 2]⟩) ∧
      ∃ opening later frames,
        SinceOpening ⟨7 :: List.replicate 15 0, rfl⟩ ((new 10).receipts
          (contestedRun ++ [.add (contestedFrame 0 [0] false) ⟨7, 0⟩])) opening later ∧
        Assembles (opening :: later) frames ∧ contestedFrame 0 [0] false ∈ frames ∧
        frames.flatMap (·.data) = [0, 1, 2] := by
  have hcloses : (((new 10).after contestedRun).add (contestedFrame 0 [0] false) ⟨7, 0⟩).1 =
      .ok (some ⟨⟨7 :: List.replicate 15 0, rfl⟩, 4, ⟨7, 0⟩, 3, [0, 1, 2]⟩) := by cbv
  obtain ⟨opening, later, frames, hsince, hassembles, hmem, hclosed, -⟩ :=
    assembles_of_add 10 contestedRun _ _ _ _ (Prod.ext hcloses rfl)
  exact ⟨hcloses, opening, later, frames, hsince, hassembles, hmem, (congrArg (·.data) hclosed).symm⟩

end ChannelTable
end BatchInbox
