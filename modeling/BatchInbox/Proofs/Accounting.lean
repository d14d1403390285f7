import BatchInbox.Proofs.Journal

/-!
# Every channel is accounted for

A channel begins with the frame that finds no entry under its id.  It may leave the table by closing,
by a check for timeouts, or when there is nothing more to read; and its id may be used again, even
within one transaction.  Marks come and go in between and are no channels.

The accounts balance after every step: the channels that have begun are those that were closed, those
that were given up, and those that wait in the table, each as often as it began.

## What is here

* `Intake.beginnings` — the channels that begin in a run, each with the block of its first frame.
* `ChannelTable.waiting` — the open channels of a table, in the same form.
* `ChannelTable.waiting_expire_perm`, `waiting_set_perm`, `waiting_perm_of_beginsAt` — what the
  operations of the table do to them.
* `Intake.Balanced`, `Intake.isKept_balanced` — the accounts, and the step.
* `Intake.beginnings_perm` — every run: nothing is lost, and nothing is reported twice.
-/

set_option autoImplicit false
namespace BatchInbox

open ChannelTable (Entry)

/-- A channel, and the block in which it began. -/
abbrev Beginning := ChannelId × Word

/-- The beginning of a closed channel. -/
def ClosedChannel.beginning (c : ClosedChannel) : Beginning := (c.id, c.firstSeen)

/-- The beginning of a channel that was given up. -/
def DroppedChannel.beginning (d : DroppedChannel) : Beginning := (d.id, d.firstSeen)

/-- What is found in a list, if each element adds to one of two parts of it. -/
theorem filterMap_perm_append {α β : Type} {f g h : α → Option β}
    (hsplit : ∀ a, g a = f a ∧ h a = none ∨ g a = none ∧ h a = f a) {as : List α} :
    (as.filterMap f).Perm (as.filterMap g ++ as.filterMap h) := by
  induction as with
  | nil => exact .nil
  | cons a as ih =>
    simp only [List.filterMap_cons]
    rcases hsplit a with ⟨hg, hh⟩ | ⟨hg, hh⟩ <;> rw [hg, hh] <;> cases f a
    · exact ih
    · exact ih.cons _
    · exact ih
    · exact (ih.cons _).trans List.perm_middle.symm

/-- The reason is the one that the channel has at a block: it has timed out there, or it has not. -/
def DroppedChannel.HasReasonAt (timeout block : Word) (d : DroppedChannel) : Prop :=
  d.reason = if Word.addSat d.firstSeen timeout < block then .timedOut else .unclosed

namespace ChannelTable
variable {t : ChannelTable} {id : ChannelId}

/-! ## Ascending tables -/

/-- An ascending list has no more of an id than the entry found under it. -/
theorem Ascending.perm {entries : List (ChannelId × Entry)} (h : Ascending entries)
    (id : ChannelId) :
    entries.Perm (((entries.lookup id).map (id, ·)).toList ++ entries.filter (·.1 ≠ id)) := by
  induction entries with
  | nil => exact .nil
  | cons e entries ih =>
    obtain ⟨hlater, hentries⟩ := List.pairwise_cons.1 h
    rw [List.lookup_cons]
    by_cases hid : id = e.1
    · subst hid
      have hothers : entries.filter (·.1 ≠ e.1) = entries :=
        List.filter_eq_self.2 fun e' he' => by simpa using (BytesN.ne_of_lt (hlater e' he')).symm
      rw [beq_self_eq_true, List.filter_cons_of_neg (by simp), hothers]
      exact .refl _
    · rw [beq_false_of_ne hid, List.filter_cons_of_pos (by simpa using Ne.symm hid)]
      exact ((ih hentries).cons e).trans List.perm_middle.symm

theorem filter_setEntry (id : ChannelId) (entry : Entry) (entries : List (ChannelId × Entry)) :
    (setEntry id entry entries).filter (·.1 ≠ id) = entries.filter (·.1 ≠ id) := by
  induction entries with
  | nil => simp [setEntry]
  | cons e entries ih =>
    rw [setEntry]
    split
    · exact List.filter_cons_of_neg (by simp)
    · rename_i heq
      rw [List.filter_cons_of_neg (by simp),
        List.filter_cons_of_neg (by simpa using (BytesN.eq_of_compare heq).symm)]
    · rw [List.filter_cons, List.filter_cons, ih]

@[simp]
theorem erase_set (t : ChannelTable) (id : ChannelId) (entry : Entry) :
    (t.set id entry).erase id = t.erase id :=
  congrArg (ChannelTable.mk t.timeout) (filter_setEntry id entry t.entries)

/-! ## Channels that wait -/

/-- The open channel of an entry, as it began. -/
def beginning? (e : ChannelId × Entry) : Option Beginning :=
  e.2.open?.map fun c => (e.1, c.firstSeen)

/-- The open channels of a table, as they began. -/
def waiting (t : ChannelTable) : List Beginning := t.entries.filterMap beginning?

/-- Of one id, no more than the entry found under it waits. -/
theorem waiting_perm (h : t.IsAscending) (id : ChannelId) :
    t.waiting.Perm
      (((t.find? id).bind fun e => beginning? (id, e)).toList ++ (t.erase id).waiting) := by
  have hperm := (h.perm id).filterMap beginning?
  rw [List.filterMap_append] at hperm
  refine hperm.trans (.of_eq (congrArg (· ++ (t.erase id).waiting) ?_))
  rw [find?]
  cases hfind : t.entries.lookup id with
  | none => rfl
  | some e => cases hwaits : beginning? (id, e) <;> simp [hwaits]

/-- A channel that is set waits, and whatever waited under its id does not any more. -/
theorem waiting_set_perm (h : t.IsAscending) (id : ChannelId) (c : OpenChannel) :
    (t.set id (.open c)).waiting.Perm ((id, c.firstSeen) :: (t.erase id).waiting) := by
  have hset : (t.set id (.open c)).IsAscending := Ascending.setEntry h id (.open c)
  have hperm := waiting_perm hset id
  rw [find?_set_self, erase_set] at hperm
  exact hperm

/-- **A frame that is taken.**  With its channel, if it begins, the channels that wait are this one
and those with other ids. -/
theorem waiting_perm_of_beginsAt (h : t.IsAscending) {f : Frame} {source : L1Position}
    {first : Word} (hbegun : t.BeginsAt f source first) :
    (t.waiting ++ if (t.find? f.channel).isNone then [(f.channel, source.block)] else []).Perm
      ((f.channel, first) :: (t.erase f.channel).waiting) := by
  have hperm := waiting_perm h f.channel
  rcases hbegun with ⟨hnone, rfl⟩ | ⟨c, hc, rfl⟩
  · rw [hnone] at hperm ⊢
    exact (hperm.append_right _).trans List.perm_append_comm
  · rw [hc] at hperm ⊢
    rw [if_neg (by simp), List.append_nil]
    exact hperm

/-- A check for timeouts gives up channels that wait. -/
theorem waiting_expire_perm (t : ChannelTable) (block : Word) :
    t.waiting.Perm
      ((t.expire block).1.map DroppedChannel.beginning ++ (t.expire block).2.waiting) := by
  rw [waiting, waiting, entries_expire, List.filterMap_filterMap]
  show List.Perm _ ((t.entries.filterMap (expired? t.timeout block)).map _ ++ _)
  rw [List.map_filterMap]
  refine filterMap_perm_append fun e => ?_
  obtain ⟨id, c | first⟩ := e
  · cases htimedOut : c.isTimedOut block t.timeout with
    | true =>
      refine .inl ⟨by rw [ChannelFate.expired?_open, if_pos htimedOut]; rfl, ?_⟩
      rw [ChannelFate.age?_open, if_pos htimedOut, ChannelFate.age?_mark]
      split <;> rfl
    | false =>
      refine .inr ⟨by simp [ChannelFate.expired?_open, htimedOut], ?_⟩
      rw [ChannelFate.age?_open, htimedOut]
      rfl
  · refine .inl ⟨rfl, ?_⟩
    rw [ChannelFate.age?_mark]
    split <;> rfl

/-- In the end, all channels that wait are given up. -/
theorem beginnings_finish (t : ChannelTable) (block : Word) :
    (t.finish block).1.map DroppedChannel.beginning = t.waiting := by
  have hentry : ∀ e : ChannelId × Entry,
      (unclosed? t.timeout block e).map DroppedChannel.beginning = beginning? e := by
    rintro ⟨id, c | first⟩ <;> rfl
  rw [finish, waiting, List.map_filterMap, funext hentry]

/-- A channel that is given up in the end has timed out there, or is unclosed. -/
theorem hasReasonAt_of_mem_finish {block : Word} {d : DroppedChannel}
    (h : d ∈ (t.finish block).1) : d.HasReasonAt t.timeout block := by
  obtain ⟨⟨id, c | first⟩, -, hdrop⟩ := List.mem_filterMap.1 h
  · cases hdrop
    show (if c.isTimedOut block t.timeout then DropReason.timedOut else .unclosed) = _
    simp only [OpenChannel.isTimedOut, decide_eq_true_eq, OpenChannel.drop]
  · cases hdrop

end ChannelTable

namespace Intake
variable {timeout : Word} {s : Intake} {rs : List Receipt}

/-! ## The accounts -/

/-- The channels that begin in a run, each with the block of the transaction it begins with. -/
def beginnings (rs : List Receipt) : List Beginning :=
  (rs.filter Receipt.opens).map fun r => (r.frame.channel, r.source.block)

/-- The channels that have closed in a run. -/
def endings (rs : List Receipt) : List Beginning :=
  (rs.filterMap Receipt.closed?).map ClosedChannel.beginning

/-- **The accounts.**  The channels that have begun are those that were closed or given up, and those
that wait. -/
def Balanced (s : Intake) (rs : List Receipt) : Prop :=
  (beginnings rs).Perm (endings rs ++ (s.dropped.map DroppedChannel.beginning ++ s.table.waiting))

theorem beginnings_append_singleton (rs : List Receipt) (t : ChannelTable) (f : Frame)
    (source : L1Position) :
    beginnings (rs ++ [.of t f source]) =
      beginnings rs ++ if (t.find? f.channel).isNone then [(f.channel, source.block)] else [] := by
  rw [beginnings, beginnings, List.filter_append, List.map_append]
  refine congrArg (_ ++ ·) ?_
  have hopens : (Receipt.of t f source).opens = (t.find? f.channel).isNone := rfl
  rw [List.filter_cons, hopens]
  split <;> rfl

theorem endings_append_singleton (rs : List Receipt) (r : Receipt) :
    endings (rs ++ [r]) = endings rs ++ (r.closed?.map ClosedChannel.beginning).toList := by
  rw [endings, endings, List.filterMap_append, List.map_append]
  refine congrArg (_ ++ ·) ?_
  cases hclosed : r.closed? <;> simp [hclosed]

/-- A frame that is refused begins nothing and ends nothing; one that is taken ends what it begins,
or leaves it waiting. -/
theorem Balanced.take (h : s.Balanced rs) (hs : s.table.IsAscending) (f : Frame)
    (source : L1Position) : (s.take f source).Balanced (rs ++ [.of s.table f source]) := by
  rw [Balanced] at h ⊢
  rw [beginnings_append_singleton, endings_append_singleton, Intake.take]
  rcases s.table.add_cases f source with ⟨e, hsome, hadd⟩ | ⟨c, c', hmeets, hc', hadd⟩
  · have hknown : ¬ (s.table.find? f.channel).isNone = true := by simpa using hsome
    rw [if_neg hknown, Receipt.closed?_of_error hadd, hadd]
    simpa using h
  · -- the channel of the frame waits before the step, or begins with it
    have hbefore : (beginnings rs ++ if (s.table.find? f.channel).isNone then
        [(f.channel, source.block)] else []).Perm
          (endings rs ++ (s.dropped.map DroppedChannel.beginning ++
            (f.channel, c'.firstSeen) :: (s.table.erase f.channel).waiting)) := by
      have hwaiting := ChannelTable.waiting_perm_of_beginsAt hs (hmeets.beginsAt hc')
      refine (h.append_right _).trans ?_
      rw [List.append_assoc, List.append_assoc]
      exact (hwaiting.append_left _).append_left _
    refine hbefore.trans ?_
    rcases hadd with ⟨-, hadd⟩ | ⟨-, hadd⟩ <;> rw [Receipt.closed?_of_ok hadd, hadd]
    · have hafter := ChannelTable.waiting_set_perm hs f.channel c'
      rw [Option.map_none, Option.toList_none, List.append_nil]
      exact (hafter.symm.append_left _).append_left _
    · rw [List.append_assoc]
      exact List.perm_middle.append_left _

/-- **The step.**  The accounts stay balanced. -/
theorem isKept_balanced : IsKept Balanced where
  moveTo {s rs} block _ _ h := by
    refine h.trans (.append_left _ ?_)
    show List.Perm _ ((s.dropped ++ (s.table.expire block).1).map _ ++ _)
    rw [List.map_append, List.append_assoc]
    exact (s.table.waiting_expire_perm block).append_left _
  take f source hs _ h := h.take hs f source

/-! ## Reasons -/

theorem le_lastBlock {current : Word} (h : s.block? = some current) (block : Word) :
    current ≤ s.lastBlock block := by
  rw [lastBlock, h]
  simp only
  split
  · assumption
  · exact UInt64.le_refl current

/-- A channel given up by a check had timed out. -/
structure GivesUpLate (timeout : Word) (s : Intake) (_ : List Receipt) : Prop where
  timeout_eq : s.table.timeout = timeout
  dropped : ∀ d ∈ s.dropped, d.reason = .timedOut ∧
    ∃ current, s.block? = some current ∧ Word.addSat d.firstSeen timeout < current

theorem isKept_givesUpLate (timeout : Word) : IsKept (GivesUpLate timeout) where
  moveTo {s rs} block _ hlater h := by
    obtain ⟨rfl, hdropped⟩ := h
    refine ⟨rfl, fun d hd => ?_⟩
    rcases List.mem_append.1 hd with hd | hd
    · obtain ⟨hreason, current, hreached, hlt⟩ := hdropped d hd
      exact ⟨hreason, block, rfl, UInt64.lt_trans hlt (hlater current hreached)⟩
    · obtain ⟨id, c, -, htimedOut, rfl⟩ := ChannelTable.mem_expired.1 hd
      exact ⟨rfl, block, rfl, of_decide_eq_true htimedOut⟩
  take {s rs} f source _ _ h :=
    ⟨(ChannelTable.timeout_add s.table f source).trans h.timeout_eq, h.dropped⟩

theorem GivesUpLate.hasReasonAt_close (h : s.GivesUpLate timeout rs) (block : Word) :
    ∀ d ∈ s.close block, d.HasReasonAt timeout (s.lastBlock block) := by
  obtain ⟨rfl, hdropped⟩ := h
  rw [close_eq, List.forall_mem_append, List.forall_mem_append]
  refine ⟨⟨fun d hd => ?_, fun d hd => ?_⟩, fun d hd => ?_⟩
  · obtain ⟨hreason, current, hreached, hlt⟩ := hdropped d hd
    rw [DroppedChannel.HasReasonAt, hreason,
      if_pos (UInt64.lt_of_lt_of_le hlt (le_lastBlock hreached block))]
  · obtain ⟨id, c, -, htimedOut, rfl⟩ := ChannelTable.mem_expired.1 hd
    exact (if_pos (of_decide_eq_true htimedOut)).symm
  · exact ChannelTable.hasReasonAt_of_mem_finish (t := (s.table.expire _).2) hd

/-! ## Every run -/

/-- In the end, all that have begun are closed or given up. -/
theorem Balanced.close (h : s.Balanced rs) (block : Word) :
    (beginnings rs).Perm (endings rs ++ (s.close block).map DroppedChannel.beginning) := by
  refine h.trans (.append_left _ ?_)
  rw [close_eq, List.map_append, List.map_append, ChannelTable.beginnings_finish, List.append_assoc]
  exact (s.table.waiting_expire_perm (s.lastBlock block)).append_left _

/-- **Every channel is accounted for.**  Whatever is asked of the intake, refused or not, the
channels that have begun are those that pushes gave and those that are given up in the end, each as
often as it began; and those that are given up have timed out at the last block, or are told to be
unclosed. -/
theorem beginnings_perm (timeout : Word) (calls : List Call) (last : Word) :
    (beginnings ((new timeout).journal calls).receipts).Perm
        (((new timeout).journal calls).closed.map ClosedChannel.beginning ++
          (((new timeout).journal calls).intake.close last).map DroppedChannel.beginning) ∧
      ∀ d ∈ ((new timeout).journal calls).intake.close last,
        d.HasReasonAt timeout (((new timeout).journal calls).intake.lastBlock last) := by
  have hascending := ChannelTable.isAscending_new timeout
  obtain ⟨hbalanced, -⟩ := isKept_balanced.journal (s := new timeout) calls hascending .nil
  obtain ⟨hlate, -⟩ := (isKept_givesUpLate timeout).journal (s := new timeout) calls hascending
    ⟨rfl, nofun⟩
  have hclosed := (closed_journal_perm (new timeout) calls).map ClosedChannel.beginning
  exact ⟨(hbalanced.close last).trans (hclosed.symm.append_right _), hlate.hasReasonAt_close last⟩

/-- A channel that closes, and begins again in the same transaction; and another one that begins, is
given up, and begins again behind its mark. -/
def reopenedRun : List Call :=
  [framesIn 5 [(1, 0, true), (1, 0, false), (2, 0, false)], .advance 9, framesIn 10 [(2, 1, false)]]

example :
    (beginnings ((new 2).journal reopenedRun).receipts).map (·.2) = [5, 5, 5, 10] ∧
      ((new 2).journal reopenedRun).closed.map (·.firstSeen) = [5] ∧
      (((new 2).journal reopenedRun).intake.close 11).map (fun d => (d.firstSeen, d.reason)) =
        [(5, .timedOut), (5, .timedOut), (10, .unclosed)] := by
  cbv

end Intake
end BatchInbox
