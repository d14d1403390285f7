import BatchInbox.Proofs.Cover
import BatchInbox.Proofs.Outside

/-!
# Nothing wraps

A word that does not fit is refused in most places, or cut off.  In a few places nothing is done about
it: where the middle of two blocks is taken, where a range ends in front of another one, and where the
time of a batch is divided by the time of a block.  There it is up to what has been checked before.

So here is a request once more, with a guard in these places: it stops where a sum does not fit, a
difference is below zero, or a divisor is zero.  It never stops, and comes to the same as the request
without guards.  All that this takes is that the time of a block is not zero, and a request is refused
before anything is divided by it.

The times of a request and the margins around them need no guard.  They are refused or cut off where
they do not fit, and are what they should be otherwise (`Rollup.timestamp_eq_ok_iff`,
`toNat_searchTimes`).

## What is here

* `Word.div?`, `Word.mod?` — division with a guard.
* `Guarded` — the parts of a request with guards, each with an equation that says that no guard stops
  it.
* `resolve_isSafe` — a request finds no fault with itself, and nothing wraps.
-/

set_option autoImplicit false
namespace BatchInbox

namespace Word

/-- The quotient, if the divisor is not zero. -/
def div? (a b : Word) : Option Word := if b = 0 then none else some (a / b)

/-- The remainder, if the divisor is not zero. -/
def mod? (a b : Word) : Option Word := if b = 0 then none else some (a % b)

theorem sub?_one_eq_some {b : Word} (h : 0 < b) : sub? b 1 = some (b - 1) := by
  refine if_pos ?_
  rw [UInt64.lt_iff_toNat_lt, UInt64.toNat_zero] at h
  rw [UInt64.le_iff_toNat_le, UInt64.toNat_one]
  omega

/-- **The middle of two words** fits, and lies between them. -/
theorem add?_half_eq_some {low high gap : Word} (h : sub? high low = some gap) :
    ∃ middle, add? low (gap / 2) = some middle ∧
      middle.toNat = low.toNat + (high.toNat - low.toNat) / 2 := by
  rw [sub?_eq_some] at h
  have hhalf : (gap / 2).toNat = gap.toNat / 2 := UInt64.toNat_div gap 2
  have hfits := high.toNat_lt
  cases hmiddle : add? low (gap / 2) with
  | none =>
    have hlarge := ofNat?_eq_none.1 hmiddle
    simp only [UInt64.size] at hlarge
    omega
  | some middle =>
    refine ⟨middle, rfl, ?_⟩
    rw [add?_eq_some] at hmiddle
    omega

end Word

namespace Guarded

/-! ## Batches -/

section
variable {c : Rollup}

/-- The block whose timestamp lies `offset` seconds behind the genesis of the chain. -/
def blockAt (c : Rollup) (offset : Word) : Option (Except Batch.Error Word) := do
  if (← Word.mod? offset c.blockTime) ≠ 0 then
    return .error (.misalignedTimestamp offset c.blockTime)
  match Word.add? (← Word.div? offset c.blockTime) c.genesisBlock with
  | none => return .error (.blockOverflow offset)
  | some block => return .ok block

theorem blockAt_eq (h : c.blockTime ≠ 0) (offset : Word) :
    blockAt c offset = some (Batch.blockAt c offset) := by
  rw [blockAt, Batch.blockAt, Word.mod?, Word.div?, if_neg h, if_neg h]
  simp only [Option.bind_eq_bind, Option.bind_some]
  split
  · rfl
  · cases Word.add? (offset / c.blockTime) c.genesisBlock <;> rfl

/-- The L2 block that a single batch stands for. -/
def singleBlock (b : SingleBatch) (c : Rollup) : Option (Except Batch.Error Word) :=
  match Word.sub? b.timestamp c.genesisTime with
  | none => some (.error (.rollup (.beforeGenesisTime b.timestamp c.genesisTime)))
  | some offset => blockAt c offset

theorem singleBlock_eq (h : c.blockTime ≠ 0) (b : SingleBatch) :
    singleBlock b c = some (b.block c) := by
  rw [singleBlock, SingleBatch.block]
  cases Word.sub? b.timestamp c.genesisTime with
  | none => rfl
  | some offset => exact blockAt_eq h offset

/-- The L2 blocks that a span batch stands for. -/
def spanBlocks (b : SpanBatch) (c : Rollup) : Option (Except Batch.Error BlockRange) := do
  match ← blockAt c b.relTimestamp with
  | .error cause => return .error cause
  | .ok first =>
    match Word.sub? b.blockCount 1 with
    | none => return .error (.invalidBlockCount 0)
    | some more =>
      match Word.add? first more with
      | none => return .error (.blockOverflow b.relTimestamp)
      | some last => return .ok ⟨first, last⟩

theorem spanBlocks_eq (h : c.blockTime ≠ 0) (b : SpanBatch) :
    spanBlocks b c = some (b.blocks c) := by
  rw [spanBlocks, SpanBatch.blocks, blockAt_eq h]
  simp only [Option.bind_eq_bind, Option.bind_some]
  cases Batch.blockAt c b.relTimestamp with
  | error cause => rfl
  | ok first =>
    by_cases hcount : b.blockCount = 0
    · have hless : Word.sub? b.blockCount 1 = none := by
        rw [hcount]
        rfl
      simp only [hless, if_pos hcount]
      rfl
    · have hmore := Word.sub?_one_eq_some (UInt64.pos_iff_ne_zero.2 hcount)
      simp only [hmore, if_neg hcount]
      show _ = some (match Word.add? first (b.blockCount - 1) with
        | none => Except.error (Batch.Error.blockOverflow b.relTimestamp)
        | some last => Except.ok (BlockRange.mk first last))
      cases Word.add? first (b.blockCount - 1) <;> rfl

/-- The L2 blocks that a batch stands for. -/
def blocks (b : Batch) (c : Rollup) : Option (Except Batch.Error BlockRange) :=
  match b with
  | .single b => do return (← singleBlock b c).map fun block => ⟨block, block⟩
  | .span b => spanBlocks b c

theorem blocks_eq (h : c.blockTime ≠ 0) (b : Batch) : blocks b c = some (b.blocks c) := by
  cases b with
  | single b =>
    rw [blocks, singleBlock_eq h]
    rfl
  | span b => exact spanBlocks_eq h b

/-! ## Channels -/

/-- The blocks of batches, the first of which has the given index. -/
def coverageOf (channel : ClosedChannel) (c : Rollup) :
    (index : Nat) → List Batch → Option (Except Coverage.Error (List Coverage))
  | _, [] => some (.ok [])
  | index, b :: batches => do
    match ← blocks b c with
    | .error cause => return .error (.batch index cause)
    | .ok range =>
      match ← coverageOf channel c (index + 1) batches with
      | .error e => return .error e
      | .ok covered =>
        return .ok (⟨range, b.type, channel.id, channel.closedAt, index⟩ :: covered)

theorem coverageOf_eq (h : c.blockTime ≠ 0) (channel : ClosedChannel) (index : Nat)
    (batches : List Batch) :
    coverageOf channel c index batches = some (channel.coverageOf c index batches) := by
  induction batches generalizing index with
  | nil => rfl
  | cons b batches ih =>
    rw [coverageOf, ClosedChannel.coverageOf, blocks_eq h]
    simp only [Option.bind_eq_bind, Option.bind_some]
    cases b.blocks c with
    | error cause => rfl
    | ok range =>
      simp only [ih, Option.bind_some]
      cases channel.coverageOf c (index + 1) batches <;> rfl

/-- The blocks of all batches of a channel. -/
def coverage (channel : ClosedChannel) (c : Rollup) (limit : Word) :
    Option (Except Coverage.Error (List Coverage)) :=
  match channel.batches limit with
  | .error e => some (.error e)
  | .ok batches => coverageOf channel c 0 batches

theorem coverage_eq (h : c.blockTime ≠ 0) (channel : ClosedChannel) (limit : Word) :
    coverage channel c limit = some (channel.coverage c limit) := by
  rw [coverage, ClosedChannel.coverage]
  cases channel.batches limit with
  | error e => rfl
  | ok batches => exact coverageOf_eq h channel 0 batches

/-- The coverage of channels, and a warning for each one that has none. -/
def decodeChannels (c : Rollup) (limit : Word) :
    List ClosedChannel → Option (Except ResolveError (List Coverage × List ResolveWarning))
  | [] => some (.ok ([], []))
  | channel :: channels => do
    match ← decodeChannels c limit channels with
    | .error e => return .error e
    | .ok (covered, warnings) =>
      match ← coverage channel c limit with
      | .ok more => return .ok (more ++ covered, warnings)
      | .error .overflow => return .error .overflow
      | .error cause => return .ok (covered, decodeWarning channel cause :: warnings)

theorem decodeChannels_eq (h : c.blockTime ≠ 0) (limit : Word) (channels : List ClosedChannel) :
    decodeChannels c limit channels = some (BatchInbox.decodeChannels c limit channels) := by
  induction channels with
  | nil => rfl
  | cons channel channels ih =>
    rw [decodeChannels, BatchInbox.decodeChannels, ih]
    simp only [Option.bind_eq_bind, Option.bind_some, coverage_eq h]
    rcases BatchInbox.decodeChannels c limit channels with e | decoded
    · rfl
    · rcases channel.coverage c limit with cause | covered
      · cases cause <;> rfl
      · rfl

end

/-! ## Ranges -/

/-- The blocks from `next` on in front of a range. -/
def before (next : Word) (r : BlockRange) : Option (List BlockRange) :=
  if next < r.first then do return [⟨next, ← Word.sub? r.first 1⟩] else some []

/-- A range that does not begin with block 0 has a block in front of it. -/
theorem before_eq (next : Word) (r : BlockRange) : before next r = some (r.before next) := by
  rw [before, BlockRange.before]
  split
  · rename_i hlt
    rw [Word.sub?_one_eq_some (UInt64.lt_of_le_of_lt UInt64.zero_le hlt)]
    rfl
  · rfl

/-- The blocks from `next` to `last` that no range covers. -/
def gapsFrom (next last : Word) : List BlockRange → Option (List BlockRange)
  | [] => some (BlockRange.between next last)
  | r :: ranges =>
    if r.last < next then gapsFrom next last ranges
    else if last < r.first then some (BlockRange.between next last)
    else
      match Word.add? r.last 1 with
      | none => before next r
      | some after => do return (← before next r) ++ (← gapsFrom after last ranges)

theorem gapsFrom_eq (next last : Word) (ranges : List BlockRange) :
    gapsFrom next last ranges = some (BlockRange.gapsFrom next last ranges) := by
  induction ranges generalizing next with
  | nil => rfl
  | cons r ranges ih =>
    rw [gapsFrom, BlockRange.gapsFrom]
    split
    · exact ih next
    · split
      · rfl
      · cases Word.add? r.last 1 with
        | none => exact before_eq next r
        | some after =>
          simp only [before_eq, ih]
          rfl

/-- Cuts the blocks from `next` on that a batch wants around the ranges that are taken. -/
def cut (source : L1Position) (wanted : BlockRange) (next : Word) :
    List BlockRange → Option (List BlockRange × List Overlap)
  | [] => some (BlockRange.between next wanted.last, [])
  | kept :: conflicts => do
    let overlaps := (Partition.overlap? source wanted kept).toList
    match Word.add? kept.last 1 with
    | none => return (← before next kept, overlaps)
    | some after =>
      let rest ← cut source wanted after conflicts
      return ((← before next kept) ++ rest.1, overlaps ++ rest.2)

theorem cut_eq (source : L1Position) (wanted : BlockRange) (next : Word)
    (conflicts : List BlockRange) :
    cut source wanted next conflicts = some (Partition.cut source wanted next conflicts) := by
  induction conflicts generalizing next with
  | nil => rfl
  | cons kept conflicts ih =>
    rw [cut, Partition.cut]
    cases Word.add? kept.last 1 with
    | none =>
      simp only [before_eq]
      rfl
    | some after =>
      simp only [before_eq, ih]
      rfl

/-- Gives a batch what is left of its blocks within the bounds. -/
def claim (bounds : BlockRange) (p : Partition) (c : Coverage) : Option Partition :=
  match c.range.clip? bounds with
  | none => some p
  | some wanted => do
    let pieces ← cut c.closedAt wanted wanted.first (BlockRange.conflicts p.ranges wanted)
    return ⟨BlockRange.insertAll pieces.1 p.ranges, p.overlaps ++ pieces.2⟩

theorem claim_eq (bounds : BlockRange) (p : Partition) (c : Coverage) :
    claim bounds p c = some (p.claim bounds c) := by
  rw [claim, Partition.claim]
  cases c.range.clip? bounds with
  | none => rfl
  | some wanted =>
    simp only [cut_eq]
    rfl

/-- Gives all batches their blocks within the bounds, in the order they were seen. -/
def ofCoverages (coverages : List Coverage) (bounds : BlockRange) : Option Partition :=
  (coverages.mergeSort fun a b => (a.seenOrder b).isLE).foldlM (claim bounds) .empty

theorem ofCoverages_eq (coverages : List Coverage) (bounds : BlockRange) :
    ofCoverages coverages bounds = some (.ofCoverages coverages bounds) := by
  rw [ofCoverages, Partition.ofCoverages, funext₂ (claim_eq bounds)]
  exact List.foldlM_pure

/-! ## Results -/

/-- The result for the channels of a window. -/
def assemble (settings : ResolveSettings) (c : Rollup) (request window : BlockRange)
    (closed : List ClosedChannel) (dropped : List DroppedChannel) :
    Option (Except ResolveError Resolution) := do
  match ← decodeChannels c settings.maxChannelSize closed with
  | .error e => return .error e
  | .ok (coverage, warnings) =>
    let partition ← ofCoverages coverage request
    let missing ← gapsFrom request.first request.last partition.ranges
    if settings.isStrict ∧ missing ≠ [] then return .error (.coverageGap missing)
    return .ok {
      ranges := partition.ranges
      warnings :=
        dropped.filterMap dropWarning? ++ warnings ++ partition.overlaps.map overlapWarning
      l1Start := window.first
      l1End := window.last }

theorem assemble_eq {c : Rollup} (h : c.blockTime ≠ 0) (settings : ResolveSettings)
    (request window : BlockRange) (closed : List ClosedChannel) (dropped : List DroppedChannel) :
    assemble settings c request window closed dropped =
      some (BatchInbox.assemble settings c request window closed dropped) := by
  rw [assemble, BatchInbox.assemble, decodeChannels_eq h]
  simp only [Option.bind_eq_bind, Option.bind_some]
  rcases BatchInbox.decodeChannels c settings.maxChannelSize closed with e | decoded
  · rfl
  · simp only [Option.bind_some, ofCoverages_eq, gapsFrom_eq, BlockRange.gaps]
    exact (apply_ite some _ _ _).symm

/-! ## Searches -/

section
variable {σ ε α β : Type}

/-- Halves the blocks from `low` to `high` until they are neighbours. -/
def bisect (isLow : Word → Effect σ ε Bool) (low high : Word) :
    Effect σ ε (Option (Word × Word)) :=
  match _hgap : Word.sub? high low with
  | none => return none
  | some gap =>
    if _hwide : 1 < gap then
      match _hmiddle : Word.add? low (gap / 2) with
      | none => return none
      | some middle => do
        if ← isLow middle then bisect isLow middle high else bisect isLow low middle
    else return some (low, high)
  termination_by high.toNat - low.toNat
  decreasing_by
    all_goals
      obtain ⟨middle', hmiddle', hhalf⟩ := Word.add?_half_eq_some _hgap
      rw [_hmiddle] at hmiddle'
      cases hmiddle'
      rw [Word.sub?_eq_some] at _hgap
      rw [UInt64.lt_iff_toNat_lt, UInt64.toNat_one] at _hwide
      omega

/-- **Halving never stops**: a middle is a block between two others. -/
theorem bisect_eq (isLow : Nat → Effect σ ε Bool) {low high : Word} (h : low ≤ high) :
    bisect (fun n => isLow n.toNat) low high =
      (fun r => some (r.1.toUInt64, r.2.toUInt64)) <$>
        BatchInbox.bisect isLow low.toNat high.toNat := by
  induction hwidth : high.toNat - low.toNat using Nat.strongRecOn generalizing low high with
  | ind width ih =>
    have hgap : Word.sub? high low = some (high - low) := if_pos h
    have hle := UInt64.le_iff_toNat_le.1 h
    obtain ⟨middle, hmiddle, hhalf⟩ := Word.add?_half_eq_some hgap
    have hsub := Word.sub?_eq_some.1 hgap
    rw [bisect, BatchInbox.bisect]
    split
    · rename_i hnone
      rw [hgap] at hnone
      cases hnone
    · rename_i gap hsome
      obtain rfl := Option.some.inj (hgap.symm.trans hsome)
      have hiff : 1 < high - low ↔ 1 < high.toNat - low.toNat := by
        rw [UInt64.lt_iff_toNat_lt, UInt64.toNat_one]
        omega
      by_cases hwide : 1 < high - low
      · have hwide' := hiff.1 hwide
        rw [dif_pos hwide, dif_pos hwide', map_bind]
        split
        · rename_i hnone
          rw [hmiddle] at hnone
          cases hnone
        · rename_i middle' hsome'
          obtain rfl := Option.some.inj (hmiddle.symm.trans hsome')
          rw [← hhalf]
          refine bind_congr fun isLow => ?_
          split
          · exact ih _ (by omega) (UInt64.le_iff_toNat_le.2 (by omega)) rfl
          · exact ih _ (by omega) (UInt64.le_iff_toNat_le.2 (by omega)) rfl
      · rw [dif_neg hwide, dif_neg (mt hiff.2 hwide), map_pure]
        simp

/-- The last block up to `head` whose time is not behind `time`, or block 0. -/
def lastAtOrBefore (source : L1Source σ) (time : Word) (head : L1Header) :
    Effect σ RpcError (Option Word) := do
  if head.timestamp ≤ time then return some head.number
  let found ← bisect (fun n => do return (← timeOf source n.toNat) ≤ time) 0 head.number
  return found.map (·.1)

theorem lastAtOrBefore_eq (source : L1Source σ) (time : Word) (head : L1Header) :
    lastAtOrBefore source time head = some <$> BatchInbox.lastAtOrBefore source time head := by
  rw [lastAtOrBefore, BatchInbox.lastAtOrBefore]
  split
  · rfl
  · have hbisect := bisect_eq (fun n => do return decide ((← timeOf source n) ≤ time))
      (UInt64.zero_le (a := head.number))
    rw [hbisect, bind_map_left, map_bind]
    rfl

/-- The first block whose time is not before `time`, or `head`. -/
def firstAtOrAfter (source : L1Source σ) (time : Word) (head : L1Header) :
    Effect σ RpcError (Option Word) := do
  if head.timestamp ≤ time then return some head.number
  if time ≤ (← timeOf source 0) then return some 0
  let found ← bisect (fun n => do return (← timeOf source n.toNat) < time) 0 head.number
  return found.map (·.2)

theorem firstAtOrAfter_eq (source : L1Source σ) (time : Word) (head : L1Header) :
    firstAtOrAfter source time head = some <$> BatchInbox.firstAtOrAfter source time head := by
  rw [firstAtOrAfter, BatchInbox.firstAtOrAfter]
  split
  · rfl
  · rw [map_bind]
    refine bind_congr fun genesis => ?_
    split
    · rfl
    · have hbisect := bisect_eq (fun n => do return decide ((← timeOf source n) < time))
        (UInt64.zero_le (a := head.number))
      rw [hbisect, bind_map_left, map_bind]
      rfl

/-! ## Requests -/

variable {u : Endpoints σ}

/-- A question to the client, as a step of a request. -/
def ask (u : Endpoints σ) (e : Effect σ RpcError α) : Effect (Session σ) ResolveError α :=
  u.unlessCancelled (onWorld (e.mapError .l1Fetch))

theorem ask_map (f : α → β) (e : Effect σ RpcError α) : ask u (f <$> e) = f <$> ask u e := by
  funext s
  show (ask u (f <$> e)).step s = (f <$> ask u e).step s
  rw [Effect.step_map, ask, ask, Endpoints.unlessCancelled, Endpoints.unlessCancelled]
  simp only [Effect.step_bind, Effect.step_get]
  split
  · rfl
  · simp only [onWorld, Effect.step_zoom, Effect.step_mapError, Effect.step_map]
    rcases e.step s.world with ⟨err | a, w⟩ <;> rfl

/-- The window of L1 blocks to read for L2 blocks of the given times. -/
def findWindow (u : Endpoints σ) (settings : ResolveSettings) (c : Rollup)
    (times : Word × Word) : Effect (Session σ) ResolveError (Option (Word × Word)) := do
  let head ← ask u u.l1.finalized
  match ← ask u (lastAtOrBefore u.l1 (searchTimes settings c times).1 head) with
  | none => return none
  | some first =>
    match ← ask u (firstAtOrAfter u.l1 (searchTimes settings c times).2 head) with
    | none => return none
    | some last => return some (first, last)

theorem findWindow_eq (settings : ResolveSettings) (c : Rollup) (times : Word × Word) :
    findWindow u settings c times = some <$> BatchInbox.findWindow u settings c times := by
  rw [findWindow, BatchInbox.findWindow, map_bind]
  refine bind_congr fun head => ?_
  rw [lastAtOrBefore_eq, ask_map, bind_map_left, map_bind]
  refine bind_congr fun first => ?_
  simp only
  rw [firstAtOrAfter_eq, ask_map, bind_map_left, map_bind]
  rfl

/-- Resolves the L2 blocks from `start` to `last`. -/
def resolve (u : Endpoints σ) (settings : ResolveSettings) (c : Rollup) (start last : Word) :
    Effect (Session σ) ResolveError (Option Resolution) := do
  match requestTimes c start last with
  | .error cause => throw (.invalidRequest cause)
  | .ok times =>
    match ← findWindow u settings c times with
    | none => return none
    | some (first, final) =>
      let (closed, dropped) ← scan u c settings.concurrency first final
      match assemble settings c ⟨start, last⟩ ⟨first, final⟩ closed dropped with
      | none => return none
      | some (.error e) => throw e
      | some (.ok resolution) => return some resolution

/-- **No guard stops a request.** -/
theorem resolve_eq (u : Endpoints σ) (settings : ResolveSettings) (c : Rollup)
    (start last : Word) :
    resolve u settings c start last = some <$> BatchInbox.resolve u settings c start last := by
  rw [resolve, BatchInbox.resolve]
  cases htimes : requestTimes c start last with
  | error cause => rfl
  | ok times =>
    -- the request makes sense, so that blocks have some time between them
    have htime : c.blockTime ≠ 0 := by
      obtain ⟨-, hvalid, -⟩ := requestTimes_eq_ok htimes
      intro hzero
      rw [Rollup.validate, if_pos hzero] at hvalid
      cases hvalid
    simp only
    rw [findWindow_eq, bind_map_left, map_bind]
    refine bind_congr ?_
    rintro ⟨first, final⟩
    simp only
    rw [map_bind]
    refine bind_congr ?_
    rintro ⟨closed, dropped⟩
    simp only [assemble_eq htime]
    cases BatchInbox.assemble settings c ⟨start, last⟩ ⟨first, final⟩ closed dropped <;> rfl

end
end Guarded

/-- **A request finds no fault with itself, and nothing wraps.**  The client gives the blocks that it
is asked for, and so did the clients of all requests that have left files.  Then no error is internal,
and the program does not stop when a channel is decompressed, but at the largest limit; and a request
with guards, which stops where a sum does not fit, a difference is below zero or a divisor is zero,
comes to the same as one without. -/
theorem resolve_isSafe {σ : Type} {u : Endpoints σ} (hnumbers : u.l1.TellsNumbers) {d : Disk}
    (hd : d.Used) (settings : ResolveSettings) (c : Rollup) (start last : Word) (w : σ)
    (memo : BlobMemo) :
    (∀ detail, ((resolve u settings c start last).step ⟨w, d, memo⟩).1 ≠
        .error (.internal detail)) ∧
      (((resolve u settings c start last).step ⟨w, d, memo⟩).1 = .error .overflow →
        settings.maxChannelSize = Word.max) ∧
      Guarded.resolve u settings c start last = some <$> resolve u settings c start last := by
  have hfails := fun e => outside_of_resolve (e := e) hnumbers hd settings c start last w memo
  refine ⟨fun detail h => ?_, fun h => ?_, Guarded.resolve_eq u settings c start last⟩
  · rcases hfails _ h with houtside | ⟨heq, -⟩
    · exact houtside.external detail rfl
    · cases heq
  · rcases hfails _ h with houtside | ⟨-, hmax⟩
    · exact absurd rfl houtside.goes
    · exact hmax

/-- A request behind another one, for a chain whose blocks have no time between them; and one that
passes all guards, with a margin and timeouts that do not fit: the window is the whole L1, and there
are gaps on either side of the batch. -/
theorem resolve_isSafe_threeBlocks :
    let c : Rollup := { threeBlocksRollup with
      channelTimeout := Word.max, sequencingWindow := Word.max }
    let settings := { threeBlocksSettings with safetyMargin := Word.max, isStrict := false }
    let left := ((resolve threeBlocksNodes threeBlocksSettings threeBlocksRollup 10 12).step
      ⟨(), .empty, .empty⟩).2.disk
    (∀ detail, ((resolve threeBlocksNodes settings { c with blockTime := 0 } 10 12).step
        ⟨(), left, .empty⟩).1 ≠ .error (.internal detail)) ∧
      ((Guarded.resolve threeBlocksNodes settings c 9 13).step ⟨(), .empty, .empty⟩).1 =
        .ok (some ⟨[⟨10, 12⟩], [], 0, 5⟩) := by
  intro c settings left
  have hnumbers : threeBlocksNodes.l1.TellsNumbers := threeBlocksL1.tellsNumbers_client
  have hstart : Disk.empty.Used := .start fun _ _ => rfl
  have hused : left.Used := .resolve hstart hnumbers _ _ _ _ _ _
  refine ⟨(resolve_isSafe hnumbers hused settings { c with blockTime := 0 } 10 12 () .empty).1, ?_⟩
  have hanswer : ((resolve threeBlocksNodes settings c 9 13).step ⟨(), .empty, .empty⟩).1 =
      .ok ⟨[⟨10, 12⟩], [], 0, 5⟩ := by
    decide +kernel
  rw [(resolve_isSafe hnumbers hstart settings c 9 13 () .empty).2.2, Effect.step_map]
  exact congrArg (Except.map some) hanswer

end BatchInbox
