import BatchInbox.Proofs.Accounting
import BatchInbox.Proofs.Outside

/-!
# Nothing is swallowed

A channel that begins in the window may time out, stay open, or close; and one that closes may turn
out to be too large, or not to decode, or to stand for blocks.  These are all the ways in which it can
end, they exclude each other, and the result of a request tells how each channel has ended: by a
warning, by its blocks, or by its silence.

Nothing is assumed about the nodes or the disk.  What was read is whatever they gave, and the channels
are those that begin in it.

## What is here

* `Ending` — the ways in which a channel ends, with what each of them leaves in a result;
  `Ending.Holds` — what makes a channel end in this way, `Ending.Holds.eq` — and in no other.
* `Ending.all` — how channels have ended that were given up, and those that closed.
* `Intake.Reads.takeAll`, `Intake.journal_of_takeAll` — reading blocks is a run that keeps a journal.
* `Session.TxsFrom`, `Session.TimingFrom`, `Session.SidecarsFrom` — where all that is read comes from.
* `Accounts` — an account of all channels that begin in blocks; `Intake.Reads.accounts`.
* `Resolution.Tells`, `resolve_accounts` — a result comes with such an account, and tells it.
-/

set_option autoImplicit false
namespace BatchInbox

/-! ## Endings -/

/-- How a channel ends. -/
inductive Ending where
  /-- It was open for longer than the timeout. -/
  | timedOut (id : ChannelId) (firstSeen : Word)
  /-- It was open, within the timeout, when there was nothing more to read. -/
  | unclosed (id : ChannelId) (firstSeen : Word)
  /-- It closed, and its data is too large when it is decompressed. -/
  | tooLarge (channel : ClosedChannel)
  /-- It closed, and does not decode or stands for no blocks for another reason. -/
  | undecodable (channel : ClosedChannel) (cause : Coverage.Error)
  /-- It closed, and covers the blocks of all its batches. -/
  | covers (channel : ClosedChannel) (covered : List Coverage)

namespace Ending

/-- The channel, with the block in which it began. -/
def beginning : Ending → Beginning
  | timedOut id firstSeen | unclosed id firstSeen => (id, firstSeen)
  | tooLarge channel | undecodable channel _ | covers channel _ => channel.beginning

/-- The channel, if it closed. -/
def closed? : Ending → Option ClosedChannel
  | timedOut _ _ | unclosed _ _ => none
  | tooLarge channel | undecodable channel _ | covers channel _ => some channel

/-- The warning that a result has for the channel. -/
def warning? (limit : Word) : Ending → Option ResolveWarning
  | timedOut id firstSeen => some (.channelTimeout id firstSeen)
  | tooLarge channel => some (.channelTooLarge channel.id limit)
  | undecodable channel cause => some (.batchDecode channel.id cause)
  | unclosed _ _ | covers _ _ => none

/-- The blocks that the channel adds to a result. -/
def coverage : Ending → List Coverage
  | covers _ covered => covered
  | _ => []

/-- What makes a channel end in this way, when blocks are read up to `last`.  The content of one that
covers blocks is whole: where a limit would cut it off it is too large, or the program stops. -/
inductive Holds (config : Rollup) (limit last : Word) : Ending → Prop where
  | timedOut {id : ChannelId} {firstSeen : Word}
    (h : Word.addSat firstSeen config.channelTimeout < last) :
    Holds config limit last (timedOut id firstSeen)
  | unclosed {id : ChannelId} {firstSeen : Word}
    (h : last ≤ Word.addSat firstSeen config.channelTimeout) :
    Holds config limit last (unclosed id firstSeen)
  | tooLarge {channel : ClosedChannel}
    (h : Compression.decompress channel.data limit = .error (.tooLarge limit)) :
    Holds config limit last (tooLarge channel)
  | undecodable {channel : ClosedChannel} {cause : Coverage.Error}
    (h : channel.Fails config limit cause) : Holds config limit last (undecodable channel cause)
  | covers {channel : ClosedChannel} {content : Bytes} {batches : List Batch}
    {covered : List Coverage} (hdata : Compression.decompress channel.data limit = .ok content)
    (hread : Batch.decodeStream content = (batches, none))
    (hcovered : List.Forall₂ (channel.Covers config) batches.zipIdx covered) :
    Holds config limit last (covers channel covered)

/-- How a channel that was given up has ended. -/
def ofDropped (d : DroppedChannel) : Ending :=
  match d.reason with
  | .timedOut => timedOut d.id d.firstSeen
  | .unclosed => unclosed d.id d.firstSeen

/-- How a channel that closed has ended. -/
def ofClosed (config : Rollup) (limit : Word) (channel : ClosedChannel) : Ending :=
  match channel.coverage config limit with
  | .ok covered => covers channel covered
  | .error (.tooLarge _) => tooLarge channel
  | .error cause => undecodable channel cause

variable {config : Rollup} {limit last : Word}

@[simp]
theorem beginning_ofDropped (d : DroppedChannel) : (ofDropped d).beginning = d.beginning := by
  rw [ofDropped]
  split <;> rfl

@[simp]
theorem closed?_ofDropped (d : DroppedChannel) : (ofDropped d).closed? = none := by
  rw [ofDropped]
  split <;> rfl

@[simp]
theorem warning?_ofDropped (d : DroppedChannel) :
    (ofDropped d).warning? limit = dropWarning? d := by
  rw [ofDropped, dropWarning?]
  cases d.reason <;> rfl

@[simp]
theorem coverage_ofDropped (d : DroppedChannel) : (ofDropped d).coverage = [] := by
  rw [ofDropped]
  split <;> rfl

theorem holds_ofDropped {d : DroppedChannel} (h : d.HasReasonAt config.channelTimeout last) :
    (ofDropped d).Holds config limit last := by
  rw [ofDropped, show d.reason = _ from h]
  split
  · rename_i hreason
    split at hreason
    · exact .timedOut ‹_›
    · exact absurd hreason nofun
  · rename_i hreason
    split at hreason
    · exact absurd hreason nofun
    · exact .unclosed (UInt64.not_lt.1 ‹_›)

@[simp]
theorem closed?_ofClosed (channel : ClosedChannel) :
    (ofClosed config limit channel).closed? = some channel := by
  rw [ofClosed]
  split <;> rfl

theorem beginning_of_closed? {e : Ending} {channel : ClosedChannel} (h : e.closed? = some channel) :
    e.beginning = channel.beginning := by
  cases e <;> cases h <;> rfl

/-- **A channel that closed has ended in one of the three ways**, unless the program stops at it. -/
theorem holds_ofClosed {channel : ClosedChannel}
    (hgoes : channel.coverage config limit ≠ .error .overflow) :
    (ofClosed config limit channel).Holds config limit last := by
  rw [ofClosed]
  split
  · rename_i covered hcoverage
    obtain ⟨content, batches, hdata, hread, hcovered⟩ :=
      ClosedChannel.coverage_eq_ok_iff.1 hcoverage
    exact .covers hdata hread hcovered
  · rename_i hcoverage
    exact .tooLarge (ClosedChannel.coverage_eq_tooLarge_iff.1 hcoverage).2
  · rename_i cause hcause hcoverage
    have hgoes' : cause ≠ .overflow := fun heq => hgoes (heq ▸ hcoverage)
    exact .undecodable ((ClosedChannel.coverage_eq_error_iff hcause hgoes').1 hcoverage)

/-- How a channel that closed has ended is a matter of its data. -/
theorem Holds.eq_ofClosed {e : Ending} (h : e.Holds config limit last) {channel : ClosedChannel}
    (hclosed : e.closed? = some channel) : e = ofClosed config limit channel := by
  cases h with
  | timedOut | unclosed => exact absurd hclosed nofun
  | tooLarge hdata =>
    cases hclosed
    rw [ofClosed, ClosedChannel.coverage_eq_tooLarge_iff.2 ⟨rfl, hdata⟩]
  | undecodable hfails =>
    cases hclosed
    have hcause := hfails.ne_tooLarge
    rw [ofClosed, (ClosedChannel.coverage_eq_error_iff hcause hfails.ne_overflow).2 hfails]
    split
    · rename_i heq
      exact absurd heq nofun
    · rename_i heq
      exact absurd (Except.error.inj heq) (hcause _)
    · rename_i heq
      rw [Except.error.inj heq]
  | covers hdata hread hcovered =>
    cases hclosed
    rw [ofClosed, ClosedChannel.coverage_eq_ok_iff.2 ⟨_, _, hdata, hread, hcovered⟩]

/-- **A channel ends in one way only.** -/
theorem Holds.eq {e e' : Ending} (h : e.Holds config limit last) (h' : e'.Holds config limit last)
    (hbeginning : e.beginning = e'.beginning) (hclosed : e.closed? = e'.closed?) : e = e' := by
  cases hchannel : e.closed? with
  | some channel =>
    rw [h.eq_ofClosed hchannel, h'.eq_ofClosed (hclosed.symm.trans hchannel)]
  | none =>
    rw [hchannel] at hclosed
    cases h with
    | tooLarge | undecodable | covers => exact absurd hchannel nofun
    | timedOut hlate =>
      cases h' with
      | tooLarge | undecodable | covers => exact absurd hclosed nofun
      | timedOut => cases hbeginning; rfl
      | unclosed hintime =>
        cases hbeginning
        exact absurd hlate (UInt64.not_lt.2 hintime)
    | unclosed hintime =>
      cases h' with
      | tooLarge | undecodable | covers => exact absurd hclosed nofun
      | timedOut hlate =>
        cases hbeginning
        exact absurd hlate (UInt64.not_lt.2 hintime)
      | unclosed => cases hbeginning; rfl

/-- **Decoding channels** comes to how each of them has ended, unless the program stops at one. -/
theorem decodeChannels_eq_ok {closed : List ClosedChannel}
    {decoded : List Coverage × List ResolveWarning}
    (h : decodeChannels config limit closed = .ok decoded) :
    (∀ channel ∈ closed, channel.coverage config limit ≠ .error .overflow) ∧
      decoded = ((closed.map (ofClosed config limit)).flatMap coverage,
        (closed.map (ofClosed config limit)).filterMap (warning? limit)) := by
  induction closed generalizing decoded with
  | nil =>
    cases h
    exact ⟨fun _ hmem => (by cases hmem), rfl⟩
  | cons channel closed ih =>
    rw [decodeChannels] at h
    split at h
    · cases h
    · rename_i covered warnings hrest
      obtain ⟨hgoes, heq⟩ := ih hrest
      obtain ⟨rfl, rfl⟩ := Prod.mk.inj heq
      rw [List.forall_mem_cons, List.map_cons, List.flatMap_cons, List.filterMap_cons, ofClosed]
      cases hcoverage : channel.coverage config limit with
      | ok more =>
        rw [hcoverage] at h
        cases h
        exact ⟨⟨fun heq => (by cases heq), hgoes⟩, rfl⟩
      | error cause =>
        rw [hcoverage] at h
        cases cause with
        | overflow => cases h
        | tooLarge limit' =>
          obtain ⟨rfl, -⟩ := ClosedChannel.coverage_eq_tooLarge_iff.1 hcoverage
          cases h
          exact ⟨⟨fun heq => (by cases heq), hgoes⟩, rfl⟩
        | _ =>
          cases h
          exact ⟨⟨fun heq => (by cases heq), hgoes⟩, rfl⟩

/-- How channels have ended, of which some were given up and the others closed. -/
def all (config : Rollup) (limit : Word) (dropped : List DroppedChannel)
    (closed : List ClosedChannel) : List Ending :=
  dropped.map ofDropped ++ closed.map (ofClosed config limit)

section
variable (dropped : List DroppedChannel) (closed : List ClosedChannel)

theorem map_beginning_all :
    (all config limit dropped closed).map beginning =
      dropped.map DroppedChannel.beginning ++ closed.map ClosedChannel.beginning := by
  rw [all, List.map_append, List.map_map, List.map_map]
  refine congrArg₂ _ (List.map_congr_left fun d _ => ?_) (List.map_congr_left fun channel _ => ?_)
  · exact beginning_ofDropped d
  · exact beginning_of_closed? (closed?_ofClosed channel)

theorem filterMap_closed?_all : (all config limit dropped closed).filterMap closed? = closed := by
  simp [all, List.filterMap_map]

theorem pairwise_all :
    (all config limit dropped closed).Pairwise fun e e' => e.closed?.isSome → e'.closed?.isSome := by
  rw [all, List.pairwise_append, List.pairwise_map, List.pairwise_map]
  refine ⟨List.pairwise_of_forall fun d _ => ?_, List.pairwise_of_forall fun _ channel _ => ?_, ?_⟩
  · simp
  · simp
  · rw [List.forall_mem_map]
    intro d _ e _
    simp

variable {closed} {decoded : List Coverage × List ResolveWarning}

/-- Channels that were given up add no blocks. -/
theorem flatMap_coverage_all (h : decodeChannels config limit closed = .ok decoded) :
    (all config limit dropped closed).flatMap coverage = decoded.1 := by
  rw [all, List.flatMap_append, (decodeChannels_eq_ok h).2]
  simp [List.flatMap_map]

/-- Warnings of channels that were given up come before those of channels that closed. -/
theorem filterMap_warning?_all (h : decodeChannels config limit closed = .ok decoded) :
    (all config limit dropped closed).filterMap (warning? limit) =
      dropped.filterMap dropWarning? ++ decoded.2 := by
  rw [all, List.filterMap_append, (decodeChannels_eq_ok h).2, List.filterMap_map]
  exact congrArg (· ++ _) (List.filterMap_congr fun d _ => warning?_ofDropped d)

end

end Ending

/-! ## Reading as a run -/

namespace Intake
variable {s s₁ s' : Intake} {given later closed : List ClosedChannel}

/-- What is asked of the intake for a block. -/
def Block.calls (b : Block) : List Call := .advance b.number :: b.posts.map .push

/-- One run behind another one. -/
theorem takeAll_append {calls calls' : List Call} (h : s.takeAll calls = .ok (given, s₁))
    (h' : s₁.takeAll calls' = .ok (later, s')) :
    s.takeAll (calls ++ calls') = .ok (given ++ later, s') := by
  induction calls generalizing s given with
  | nil =>
    cases h
    exact h'
  | cons call calls ih =>
    obtain ⟨now, rest, s₂, hcall, hrest, rfl⟩ := takeAll_cons h
    rw [List.cons_append, takeAll, hcall]
    simp only [ih hrest, Except.map, List.append_assoc]

theorem takeAll_of_pushAll {posts : List Post} {given : List (List ClosedChannel)}
    (h : s.pushAll posts = (given.map .ok, s')) :
    s.takeAll (posts.map .push) = .ok (given.flatten, s') := by
  induction posts generalizing s given with
  | nil =>
    cases given with
    | nil =>
      cases h
      rfl
    | cons => cases h
  | cons p posts ih =>
    rw [pushAll] at h
    rcases hpush : s.push p.tx p.blobs with ⟨result, s₁⟩
    rcases hrest : s₁.pushAll posts with ⟨results, s₂⟩
    rw [hpush] at h
    simp only [hrest] at h
    cases given with
    | nil => cases h
    | cons done given =>
      cases h
      rw [List.map_cons, takeAll, Call.run, hpush]
      simp only [ih hrest, Except.map, List.flatten_cons]

/-- **Reading blocks** is a run in which nothing is refused. -/
theorem Reads.takeAll {blocks : List Block} (h : s.Reads blocks closed s') :
    s.takeAll (blocks.flatMap Block.calls) = .ok (closed, s') := by
  induction h with
  | nil s => rfl
  | @cons s s₁ s₂ s₃ b blocks given closed hadvance hpush _ ih =>
    have hblock : s.takeAll b.calls = .ok (given.flatten, s₂) := by
      rw [Block.calls, Intake.takeAll, Call.run, hadvance]
      simp only [takeAll_of_pushAll hpush, Except.map, List.nil_append]
    rw [List.flatMap_cons]
    exact takeAll_append hblock ih

/-- The journal of a run in which nothing is refused. -/
theorem journal_of_takeAll {calls : List Call} (h : s.takeAll calls = .ok (closed, s')) :
    (s.journal calls).intake = s' ∧ (s.journal calls).closed = closed := by
  induction calls generalizing s closed with
  | nil =>
    cases h
    exact ⟨rfl, rfl⟩
  | cons call calls ih =>
    obtain ⟨now, rest, s₁, hcall, hrest, rfl⟩ := takeAll_cons h
    obtain ⟨hintake, hclosed⟩ := ih hrest
    rw [journal_cons, hcall]
    exact ⟨hintake, congrArg (now ++ ·) hclosed⟩

/-- The last block that was read is that of the end, or a transaction from behind it was read. -/
theorem lastBlock_cases (s : Intake) (last : Word) :
    s.lastBlock last = last ∨ s.block? = some (s.lastBlock last) ∧ last < s.lastBlock last := by
  rw [lastBlock]
  cases s.block? with
  | none => exact .inl rfl
  | some current =>
    simp only
    split
    · exact .inl rfl
    · exact .inr ⟨rfl, UInt64.not_le.1 ‹_›⟩

end Intake

/-! ## What was read -/

section
variable {σ : Type} {u : Endpoints σ} {settings : ResolveSettings} {c : Rollup}

namespace Session

/-- The transactions were on disk, or the client gives them for the block. -/
def TxsFrom (s : Session σ) (u : Endpoints σ) (q : InboxQuery) (chain n : Word)
    (txs : List InboxTx) : Prop :=
  s.disk.load? chain n = some txs ∨
    ∃ w b w', (u.l1.block n).step w = (.ok b, w') ∧ txs = b.inboxTxs q.inbox

/-- The clock was known, or the beacon node gives it. -/
def TimingFrom (s : Session σ) (u : Endpoints σ) (timing : BeaconTiming) : Prop :=
  s.blobs.timing? = some timing ∨ ∃ w w', u.beacon.timing.step w = (.ok timing, w')

/-- The sidecars of the slot were known, or the beacon node gives them. -/
def SidecarsFrom (s : Session σ) (u : Endpoints σ) (slot : Word) (found : List BlobSidecar) :
    Prop :=
  s.blobs.slot? = some (slot, found) ∨ ∃ w w', (u.beacon.sidecars slot).step w = (.ok found, w')

theorem knows_self (s : Session σ) (u : Endpoints σ) (q : InboxQuery) :
    s.Knows (s.TxsFrom u q) (s.TimingFrom u) (s.SidecarsFrom u) where
  disk _ _ _ hload := .inl hload
  blobs := ⟨.inl, .inl⟩

theorem serves_self (s : Session σ) (u : Endpoints σ) (q : InboxQuery) :
    u.Serves q (s.TxsFrom u q) (s.TimingFrom u) (s.SidecarsFrom u) where
  l1 _ w b w' hblock := .inr ⟨w, b, w', hblock, rfl⟩
  beacon := {
    timing := .of_forall fun w _ w' htiming => .inr ⟨w, w', htiming⟩
    sidecars := fun _ => .of_forall fun w _ w' hsidecars => .inr ⟨w, w', hsidecars⟩ }

end Session

/-- The last block that was read is that of the end, or that of a transaction from behind it. -/
theorem Intake.Reads.lastBlock_cases {timeout first last : Word} {blocks : List Intake.Block}
    {closed : List ClosedChannel} {intake : Intake}
    (h : (Intake.new timeout).Reads blocks closed intake)
    (hnumbers : blocks.map (·.number) = InboxQuery.blocksBetween first last) :
    intake.lastBlock last = last ∨ last < intake.lastBlock last ∧
      ∃ b ∈ blocks, ∃ p ∈ b.posts, p.tx.block = intake.lastBlock last := by
  refine (intake.lastBlock_cases last).imp_right fun ⟨hreached, hlt⟩ => ⟨hlt, ?_⟩
  rcases Intake.block?_takeAll h.takeAll hreached with hnone | ⟨call, hcall, hblock⟩
  · exact absurd hnone nofun
  · obtain ⟨b, hb, hcall⟩ := List.mem_flatMap.1 hcall
    rcases List.mem_cons.1 hcall with rfl | hpush
    · rw [← hblock] at hlt
      exact absurd hlt (UInt64.not_lt.2 (InboxQuery.number_mem_of_map_eq hnumbers hb).2)
    · obtain ⟨p, hp, rfl⟩ := List.mem_map.1 hpush
      exact ⟨b, hb, p, hp, hblock⟩

/-! ## Accounts -/

/-- The journal of reading blocks. -/
def Rollup.journal (c : Rollup) (blocks : List Intake.Block) : Intake.Journal :=
  (Intake.new c.channelTimeout).journal (blocks.flatMap Intake.Block.calls)

/-- An account of all channels that begin in blocks, by how they end. -/
structure Accounts (c : Rollup) (limit last : Word) (blocks : List Intake.Block)
    (endings : List Ending) : Prop where
  /-- Each channel that begins ends, and so often as it begins. -/
  complete : (Intake.beginnings (c.journal blocks).receipts).Perm (endings.map Ending.beginning)
  /-- Those that close come in the order in which they do. -/
  closed : endings.filterMap Ending.closed? = (c.journal blocks).closed
  /-- Those that do not come before them. -/
  front : endings.Pairwise fun e e' => e.closed?.isSome → e'.closed?.isSome
  holds : ∀ e ∈ endings, e.Holds c limit last
  /-- None of them could have ended in another way. -/
  only : ∀ e ∈ endings, ∀ e' : Ending, e'.Holds c limit last → e'.beginning = e.beginning →
    e'.closed? = e.closed? → e' = e

/-- **Reading blocks comes to an account** of all channels that begin in them: those that are given
up, and those that close. -/
theorem Intake.Reads.accounts {blocks : List Intake.Block} {closed : List ClosedChannel}
    {intake : Intake} (h : (Intake.new c.channelTimeout).Reads blocks closed intake)
    {limit : Word} (hgoes : ∀ channel ∈ closed, channel.coverage c limit ≠ .error .overflow)
    (last : Word) :
    Accounts c limit (intake.lastBlock last) blocks
      (Ending.all c limit (intake.close last) closed) := by
  obtain ⟨hintake, hclosed⟩ := Intake.journal_of_takeAll h.takeAll
  have hascending := ChannelTable.isAscending_new c.channelTimeout
  obtain ⟨hbalanced, -⟩ := Intake.isKept_balanced.journal
    (s := Intake.new c.channelTimeout) (blocks.flatMap Intake.Block.calls) hascending .nil
  obtain ⟨hlate, -⟩ := (Intake.isKept_givesUpLate c.channelTimeout).journal
    (s := Intake.new c.channelTimeout) (blocks.flatMap Intake.Block.calls) hascending ⟨rfl, nofun⟩
  have hgiven := Intake.closed_journal_perm (Intake.new c.channelTimeout)
    (blocks.flatMap Intake.Block.calls)
  rw [hintake] at hbalanced hlate
  rw [hclosed] at hgiven
  have hholds : ∀ e ∈ Ending.all c limit (intake.close last) closed,
      e.Holds c limit (intake.lastBlock last) := by
    rw [Ending.all, List.forall_mem_append, List.forall_mem_map, List.forall_mem_map]
    exact ⟨fun d hd => Ending.holds_ofDropped (hlate.hasReasonAt_close last d hd),
      fun channel hchannel => Ending.holds_ofClosed (hgoes channel hchannel)⟩
  refine ⟨?_, ?_, Ending.pairwise_all _ _, hholds, fun e he e' he' => he'.eq (hholds e he)⟩
  · rw [Ending.map_beginning_all]
    refine (hbalanced.close last).trans (List.perm_append_comm.trans ?_)
    exact (hgiven.map ClosedChannel.beginning).symm.append_left _
  · rw [Ending.filterMap_closed?_all, Rollup.journal, hclosed]

/-! ## Results -/

/-- The result tells how the channels end that begin in the blocks of its window: its warnings are
those of the channels, and one for each overlap of the blocks that they cover. -/
structure Resolution.Tells (r : Resolution) (u : Endpoints σ) (settings : ResolveSettings)
    (c : Rollup) (request : BlockRange) (s : Session σ) (last : Word) (blocks : List Intake.Block)
    (endings : List Ending) : Prop where
  numbers : blocks.map (·.number) = InboxQuery.blocksBetween r.l1Start r.l1End
  served : ∀ b ∈ blocks,
    b.IsServed c.query (s.TxsFrom u c.query) (s.TimingFrom u) (s.SidecarsFrom u)
  /-- Blocks are read up to the end of the window, unless a transaction says to be from behind it. -/
  last_cases : last = r.l1End ∨
    r.l1End < last ∧ ∃ b ∈ blocks, ∃ p ∈ b.posts, p.tx.block = last
  accounts : Accounts c settings.maxChannelSize last blocks endings
  warnings : r.warnings = endings.filterMap (Ending.warning? settings.maxChannelSize) ++
    (Partition.ofCoverages (endings.flatMap Ending.coverage) request).overlaps.map overlapWarning
  ranges : r.ranges = (Partition.ofCoverages (endings.flatMap Ending.coverage) request).ranges

/-- Blocks are read up to the end of the window, if they have the numbers that they are asked for by,
and so have those that requests have left on disk. -/
theorem Resolution.Tells.last_eq {r : Resolution} {request : BlockRange} {s : Session σ}
    {last : Word} {blocks : List Intake.Block} {endings : List Ending}
    (h : r.Tells u settings c request s last blocks endings) (hnumbers : u.l1.TellsNumbers)
    (hd : s.disk.Used) : last = r.l1End := by
  refine h.last_cases.resolve_right fun ⟨hlt, b, hb, p, hp, hblock⟩ => ?_
  obtain ⟨stored, hstored, htxs⟩ := (h.served b hb).txs
  have hof : InboxTx.AreOf c.l2ChainId b.number stored := by
    rcases hstored with hload | ⟨w, b', w', hgiven, rfl⟩
    · exact hd.stores _ _ _ hload
    · exact L1Source.serves_of_tellsNumbers hnumbers c.l2ChainId c.inbox _ _ _ _ hgiven
  have hnumber : p.tx.block = b.number := by
    have htx : p.tx ∈ b.posts.map (·.tx) := List.mem_map_of_mem hp
    rw [htxs] at htx
    exact hof p.tx (List.mem_filter.1 htx).1
  rw [← hblock, hnumber] at hlt
  exact UInt64.not_lt.2 (InboxQuery.number_mem_of_map_eq h.numbers hb).2 hlt

/-- **Nothing is swallowed.**  Whatever the nodes gave and whatever was on disk, a result tells how
all channels end that begin in the blocks of its window.  If blocks have the numbers that they are
asked for by, those that are still open are told from those that timed out at the end of the
window. -/
theorem resolve_accounts {start last : Word} {s s' : Session σ} {r : Resolution}
    (h : (resolve u settings c start last).step s = (.ok r, s')) :
    ∃ reached blocks endings, r.Tells u settings c ⟨start, last⟩ s reached blocks endings ∧
      (u.l1.TellsNumbers → s.disk.Used → reached = r.l1End) := by
  obtain ⟨times, s₁, closed, dropped, -, hwindow, hscan, hassemble⟩ := resolve_eq_ok h
  have hkeeps := outside_findWindow (u := u) settings c times
    (J := Session.Knows (s.TxsFrom u c.query) (s.TimingFrom u) (s.SidecarsFrom u))
    fun _ _ hknows => ⟨hknows.disk, hknows.blobs⟩
  obtain ⟨-, hknows⟩ := hkeeps.of_ok (s.knows_self u c.query) hwindow
  obtain ⟨⟨blocks, intake, hnumbers, hserved, hreads, rfl⟩, -⟩ :=
    (ensures_scan (s.serves_self u c.query) settings.concurrency (.inl trivial) r.l1Start
      r.l1End).of_ok hknows hscan
  obtain ⟨decoded, hdecoded, hr⟩ := assemble_spec hassemble
  have hgoes := (Ending.decodeChannels_eq_ok hdecoded).1
  have htells : r.Tells u settings c ⟨start, last⟩ s (intake.lastBlock r.l1End) blocks
      (Ending.all c settings.maxChannelSize (intake.close r.l1End) closed) := by
    refine ⟨hnumbers, hserved, hreads.lastBlock_cases hnumbers, hreads.accounts hgoes r.l1End,
      ?_, ?_⟩
    · rw [Ending.flatMap_coverage_all _ hdecoded, Ending.filterMap_warning?_all _ hdecoded]
      exact congrArg Resolution.warnings hr
    · rw [Ending.flatMap_coverage_all _ hdecoded]
      exact congrArg Resolution.ranges hr
  exact ⟨_, blocks, _, htells, htells.last_eq⟩

end

/-! Six channels with a frame each, which end in all the ways there are. -/

/-- The data of the channels.  The second one has the last block of the first one once more, and two
others; the third one is too large for 100 bytes, and the fourth one is in no format. -/
def sixChannelsData : Nat → Bytes
  | 0 => Intake.threeBlocksData
  | 1 => Compression.compress .zstd (Batch.encodeStream
      [.span ⟨24, 7, BytesN.zero 20, BytesN.zero 20, 3, [5], [1, 0, 2], [9, 9]⟩])
  | 2 => Compression.compress .zstd (List.replicate 101 0)
  | 3 => [0x5a]
  | _ => []

/-- The first frame of a channel.  More should follow in the last two. -/
def sixChannelsFrame (n : Nat) : Frame :=
  ⟨⟨n.toUInt8 :: List.replicate 15 0, rfl⟩, 0, sixChannelsData n, n < 4⟩

/-- Six blocks, four of which have frames. -/
def sixChannelsL1 : L1Chain where
  head := 5
  time n := 100 + 12 * n
  txs n := ([[3], [4, 0], [1], [2, 5]] : List (List Nat))[n.toNat]?.toList.map fun channels =>
    ⟨BytesN.zero 32, 0, BytesN.zero 20, some (BytesN.zero 20), 2,
      Frame.encodeAll (channels.map sixChannelsFrame), []⟩

/-- Nodes that tell the truth about them. -/
def sixChannelsNodes : Endpoints Unit := ⟨sixChannelsL1.client, noBlobs.node, fun _ => false⟩

def sixChannelsSettings : ResolveSettings := ⟨2, 2, false, 100⟩

/-- The channels that close, one in each block. -/
def sixChannelsClosed : List ClosedChannel :=
  [3, 0, 1, 2].zipIdx.map fun (n, block) =>
    ⟨(sixChannelsFrame n).channel, block.toUInt64, ⟨block.toUInt64, 0⟩, 1, sixChannelsData n⟩

/-- The blocks of the two that have any. -/
def sixChannelsCoverage : List Coverage :=
  [⟨⟨10, 12⟩, .span, (sixChannelsFrame 0).channel, ⟨1, 0⟩, 0⟩,
    ⟨⟨12, 14⟩, .span, (sixChannelsFrame 1).channel, ⟨2, 0⟩, 0⟩]

/-- The result, with a warning for the fifth, the fourth and the third of them. -/
def sixChannelsResult : Resolution where
  ranges := [⟨10, 12⟩]
  warnings := [.channelTimeout (sixChannelsFrame 4).channel 1,
    .batchDecode (sixChannelsFrame 3).channel (.decompress (.unknownType 0x5a)),
    .channelTooLarge (sixChannelsFrame 2).channel 100, .overlapDetected ⟨10, 12⟩ ⟨12, 12⟩ false]
  l1Start := 0
  l1End := 3

theorem scan_sixChannels :
    ((scan sixChannelsNodes threeBlocksRollup 2 0 3).step ⟨(), .empty, .empty⟩).1 =
      .ok (sixChannelsClosed, [⟨(sixChannelsFrame 4).channel, 1, 1, .timedOut⟩,
        ⟨(sixChannelsFrame 5).channel, 3, 1, .unclosed⟩]) := by
  decide +kernel

theorem decodeChannels_sixChannels :
    decodeChannels threeBlocksRollup 100 sixChannelsClosed =
      .ok (sixChannelsCoverage,
        [.batchDecode (sixChannelsFrame 3).channel (.decompress (.unknownType 0x5a)),
          .channelTooLarge (sixChannelsFrame 2).channel 100]) := by
  decide +kernel

theorem ofCoverages_sixChannels :
    Partition.ofCoverages sixChannelsCoverage ⟨10, 12⟩ =
      ⟨[⟨10, 12⟩], [⟨⟨12, 12⟩, ⟨2, 0⟩, ⟨10, 12⟩, false⟩]⟩ := by
  rw [Partition.ofCoverages, List.mergeSort_of_pairwise (by decide)]
  decide

-- The parts one by one: the whole request sorts the two coverages, which does not compute.
theorem step_resolve_sixChannels :
    ((resolve sixChannelsNodes sixChannelsSettings threeBlocksRollup 10 12).step
      ⟨(), .empty, .empty⟩).1 = .ok sixChannelsResult := by
  have htimes : requestTimes threeBlocksRollup 10 12 = .ok (110, 114) := by decide +kernel
  have hfound : ((findWindow sixChannelsNodes sixChannelsSettings threeBlocksRollup
      (110, 114)).step ⟨(), .empty, .empty⟩).1 = .ok (0, 3) := by decide +kernel
  have hkeeps := outside_findWindow (u := sixChannelsNodes) sixChannelsSettings threeBlocksRollup
    (110, 114) (J := fun s => s = ⟨(), .empty, .empty⟩) fun _ _ hs => hs ▸ rfl
  have hwindow : (findWindow sixChannelsNodes sixChannelsSettings threeBlocksRollup
      (110, 114)).step ⟨(), .empty, .empty⟩ = (.ok (0, 3), ⟨(), .empty, .empty⟩) :=
    Prod.ext hfound (hkeeps.of_ok rfl (Prod.ext hfound rfl)).2
  rw [step_resolve, htimes]
  simp only [hwindow]
  rw [sixChannelsSettings, scan_sixChannels, Except.bind, assemble, decodeChannels_sixChannels]
  simp only [ofCoverages_sixChannels]
  decide +kernel

/-- Of the six channels two cover blocks, of which one is in both, one is too large, one does not
decode, one times out, and of the last one, which is still open, the result says nothing. -/
theorem resolve_accounts_sixChannels :
    ∃ blocks endings, sixChannelsResult.Tells sixChannelsNodes sixChannelsSettings
      threeBlocksRollup ⟨10, 12⟩ ⟨(), .empty, .empty⟩ 3 blocks endings := by
  obtain ⟨reached, blocks, endings, htells, hend⟩ :=
    resolve_accounts (Prod.ext step_resolve_sixChannels rfl)
  obtain rfl := hend sixChannelsL1.tellsNumbers_client (.start fun _ _ => rfl)
  exact ⟨blocks, endings, htells⟩

end BatchInbox
