import BatchInbox.Proofs.Endings
import BatchInbox.Proofs.InboxTxs
import BatchInbox.Proofs.SeenOrder

/-!
# The order in which closed channels come out

Which of two batches was seen first is decided by where their channels close, so the order of closed
channels matters.  It comes about in three places: blocks are read in their order, the transactions
of a block by their indices, and the channels that one transaction completes are sorted by their
ids.  A transaction may well complete two channels of one id, since the second may begin behind the
first; sorting is stable, and these stay in the order in which they closed.

## What is here

* `Intake.Grant`, `Intake.grants` — the pushes of a run that are not refused, with what they give.
* `Intake.closed_of_push` — what one push gives.
* `Intake.EmitsInOrder` — the order of all that a run gives; `emitsInOrder_of_pairwise`.
* `InboxTx.AreListed`, `Intake.Reads.emitsInOrder` — blocks with ascending transactions.
* `Session.EmitsInOrder`, `scan_emitsInOrder` — the order of all that a scan gives.
* `emission_in_order` — every run of pushes in order, and every scan.
-/

set_option autoImplicit false
namespace BatchInbox

/-- By where they close, then by id. -/
def ClosedChannel.emissionOrder (a b : ClosedChannel) : Ordering :=
  (compare a.closedAt b.closedAt).then (compare a.id b.id)

namespace Intake
variable {s s' : Intake}

/-! ## What one push gives -/

/-- A push that is not refused. -/
structure Grant where
  post : Post
  /-- The channels that it gives. -/
  closed : List ClosedChannel

/-- The grant of something that is asked, if it is a push. -/
def Call.grant? (s : Intake) : Call → Option Grant
  | .advance _ => none
  | .push post => (s.push post.tx post.blobs).1.toOption.map fun closed => ⟨post, closed⟩

/-- The pushes of a run that are not refused. -/
def grants (s : Intake) : List Call → List Grant
  | [] => []
  | call :: calls => (call.grant? s).toList ++ grants (call.run s).2 calls

/-- The transaction lies in front of the other one. -/
def Grant.Precedes (g g' : Grant) : Prop := compare g.post.tx.position g'.post.tx.position = .lt

/-- The channels that receipts name, in the order in which they closed. -/
def closings (rs : List Receipt) : List ClosedChannel := rs.filterMap Receipt.closed?

/-- They close where the frames come from. -/
theorem closedAt_of_mem_closings {source : L1Position} {t : ChannelTable} {frames : List Frame}
    {done : ClosedChannel} (h : done ∈ closings (receipts source t frames)) :
    done.closedAt = source := by
  induction frames generalizing t with
  | nil => cases h
  | cons f frames ih =>
    obtain ⟨r, hr, hclosed⟩ := List.mem_filterMap.1 h
    rcases List.mem_cons.1 hr with rfl | hr
    · exact (Receipt.of_closed? hclosed).2.1
    · exact ih (List.mem_filterMap.2 ⟨r, hr, hclosed⟩)

theorem pairwise_sortById (closed : List ClosedChannel) :
    (sortById closed).Pairwise fun a b => (compare a.id b.id).isLE := by
  refine List.pairwise_mergeSort (fun a b c hab hbc => ?_) isLE_id_total closed
  exact Std.TransCmp.isLE_trans hab hbc

/-- **What a push gives**: the channels that its frames complete, sorted by id. -/
theorem closed_of_push {post : Post} {closed : List ClosedChannel}
    (h : s.push post.tx post.blobs = (.ok closed, s')) :
    closed = sortById (closings ((Call.push post).receipts s)) ∧
      ∀ done ∈ closed, done.closedAt = post.tx.position := by
  rw [Call.receipts, h]
  rw [push] at h
  rcases hadvance : s.advance post.tx.block with ⟨e | ⟨⟩, s₁⟩ <;> rw [hadvance] at h
  · cases h
  · simp only at h ⊢
    split at h
    · cases h
    · have hgiven := closed_takeFrames post.tx.position [] s₁.table (post.tx.frames post.blobs)
      rw [List.nil_append] at hgiven
      cases h
      rw [hgiven]
      exact ⟨rfl, fun done hdone => closedAt_of_mem_closings (List.mem_mergeSort.1 hdone)⟩

theorem grant?_spec {call : Call} {g : Grant} (h : call.grant? s = some g) :
    g.closed = sortById (closings (call.receipts s)) ∧
      ∀ done ∈ g.closed, done.closedAt = g.post.tx.position := by
  cases call with
  | advance block => cases h
  | push post =>
    rw [Call.grant?] at h
    rcases hpush : s.push post.tx post.blobs with ⟨e | closed, s'⟩ <;> rw [hpush] at h <;> cases h
    exact closed_of_push hpush

/-- Nothing else gives channels, or frames to the table. -/
theorem given_eq_grant? (s : Intake) (call : Call) :
    (call.run s).1.toOption.getD [] = (call.grant? s).toList.flatMap (·.closed) ∧
      (call.grant? s = none → call.receipts s = []) := by
  cases call with
  | advance block =>
    rw [Call.run]
    cases (s.advance block).1 <;> exact ⟨rfl, fun _ => rfl⟩
  | push post =>
    rw [Call.run, Call.grant?, Call.receipts]
    cases (s.push post.tx post.blobs).1 with
    | error e => exact ⟨rfl, fun _ => rfl⟩
    | ok closed => exact ⟨(List.append_nil closed).symm, fun hnone => by cases hnone⟩

/-- Sorting the channels of a push does not change the order of those with one id. -/
theorem filter_given (s : Intake) (call : Call) (position : L1Position) (id : ChannelId) :
    ((call.run s).1.toOption.getD []).filter
        (fun done => done.closedAt = position ∧ done.id = id) =
      (closings (call.receipts s)).filter fun done =>
        done.closedAt = position ∧ done.id = id := by
  obtain ⟨hgiven, hnone⟩ := given_eq_grant? s call
  rw [hgiven]
  cases hgrant : call.grant? s with
  | none =>
    rw [hnone hgrant]
    rfl
  | some g =>
    have hsplit : ∀ closed : List ClosedChannel,
        closed.filter (fun done => done.closedAt = position ∧ done.id = id) =
          (closed.filter (·.id = id)).filter (·.closedAt = position) := by
      intro closed
      simp only [List.filter_filter, Bool.decide_and]
    obtain ⟨hclosed, -⟩ := grant?_spec hgrant
    rw [Option.toList_some, List.flatMap_singleton, hclosed, hsplit, hsplit, filter_id_sortById]

/-! ## Runs -/

/-- What a run gives is in order: each channel is given where it closes, they are sorted by where
that is and by their ids, and those that agree in both are in the order in which they closed. -/
structure EmitsInOrder (s : Intake) (calls : List Call) : Prop where
  closed : (s.journal calls).closed = (s.grants calls).flatMap (·.closed)
  closedAt : ∀ g ∈ s.grants calls, ∀ done ∈ g.closed, done.closedAt = g.post.tx.position
  sorted : (s.journal calls).closed.Pairwise fun a b => (a.emissionOrder b).isLE
  stable : ∀ (position : L1Position) (id : ChannelId),
    (s.journal calls).closed.filter (fun done => done.closedAt = position ∧ done.id = id) =
      (closings (s.journal calls).receipts).filter fun done =>
        done.closedAt = position ∧ done.id = id

theorem exists_of_mem_grants {calls : List Call} {g : Grant} (h : g ∈ s.grants calls) :
    ∃ (s' : Intake) (call : Call), call.grant? s' = some g := by
  induction calls generalizing s with
  | nil => cases h
  | cons call calls ih =>
    rcases List.mem_append.1 h with hnow | hlater
    · exact ⟨s, call, Option.mem_toList.1 hnow⟩
    · exact ih hlater

/-- The channels of a run are those of its pushes. -/
theorem closed_journal (s : Intake) (calls : List Call) :
    (s.journal calls).closed = (s.grants calls).flatMap (·.closed) := by
  induction calls generalizing s with
  | nil => rfl
  | cons call calls ih =>
    rw [journal_cons, grants, List.flatMap_append, ← ih, ← (given_eq_grant? s call).1]

theorem filter_closed_journal (s : Intake) (calls : List Call) (position : L1Position)
    (id : ChannelId) :
    (s.journal calls).closed.filter (fun done => done.closedAt = position ∧ done.id = id) =
      (closings (s.journal calls).receipts).filter fun done =>
        done.closedAt = position ∧ done.id = id := by
  induction calls generalizing s with
  | nil => rfl
  | cons call calls ih =>
    rw [journal_cons, closings, List.filterMap_append, List.filter_append, List.filter_append,
      filter_given, ih]
    rfl

/-- **What a run of pushes in order gives is in order**, whatever is refused in between. -/
theorem emitsInOrder_of_pairwise {calls : List Call}
    (h : (s.grants calls).Pairwise Grant.Precedes) : s.EmitsInOrder calls := by
  have hspec : ∀ g ∈ s.grants calls, ∃ done, g.closed = sortById done ∧
      ∀ done ∈ g.closed, done.closedAt = g.post.tx.position := by
    intro g hg
    obtain ⟨s', call, hgrant⟩ := exists_of_mem_grants hg
    exact ⟨_, grant?_spec hgrant⟩
  refine ⟨closed_journal s calls, fun g hg => ?_, ?_, filter_closed_journal s calls⟩
  · obtain ⟨-, -, hclosedAt⟩ := hspec g hg
    exact hclosedAt
  · rw [closed_journal, List.pairwise_flatMap]
    refine ⟨fun g hg => ?_, ?_⟩
    · obtain ⟨closed, hclosed, hclosedAt⟩ := hspec g hg
      have hids : g.closed.Pairwise fun a b => (compare a.id b.id).isLE := by
        rw [hclosed]
        exact pairwise_sortById closed
      refine hids.imp_of_mem fun ha hb hab => ?_
      rw [ClosedChannel.emissionOrder, hclosedAt _ ha, hclosedAt _ hb, Std.compare_self]
      exact hab
    · refine h.imp_of_mem fun hg hg' hlt a ha b hb => ?_
      obtain ⟨-, -, hclosedAt⟩ := hspec _ hg
      obtain ⟨-, -, hclosedAt'⟩ := hspec _ hg'
      rw [Grant.Precedes, ← hclosedAt a ha, ← hclosedAt' b hb] at hlt
      rw [ClosedChannel.emissionOrder, hlt]
      rfl

/-! ## Blocks with ascending transactions -/

/-- The transaction that is pushed. -/
def Call.post? : Call → Option Post
  | .advance _ => none
  | .push post => some post

/-- If nothing is refused, all pushes are granted. -/
theorem map_post_grants {calls : List Call} {closed : List ClosedChannel}
    (h : s.takeAll calls = .ok (closed, s')) :
    (s.grants calls).map (·.post) = calls.filterMap Call.post? := by
  induction calls generalizing s closed with
  | nil => rfl
  | cons call calls ih =>
    obtain ⟨now, later, s₁, hcall, hlater, -⟩ := takeAll_cons h
    rw [grants, hcall, List.map_append, ih hlater]
    cases call with
    | advance block => rfl
    | push post =>
      rw [Call.run] at hcall
      rw [Call.grant?, hcall]
      rfl

theorem filterMap_post?_calls (blocks : List Block) :
    (blocks.flatMap Block.calls).filterMap Call.post? = blocks.flatMap (·.posts) := by
  induction blocks with
  | nil => rfl
  | cons b blocks ih =>
    have hposts : (b.posts.map Call.push).filterMap Call.post? = b.posts := by
      rw [List.filterMap_map]
      exact List.filterMap_some
    rw [List.flatMap_cons, List.filterMap_append, ih, Block.calls, List.filterMap_cons_none rfl,
      hposts, List.flatMap_cons]

end Intake

/-- The transactions are of a block, by strictly ascending index. -/
structure InboxTx.AreListed (n : Word) (txs : List InboxTx) : Prop where
  block : ∀ tx ∈ txs, tx.block = n
  index : (txs.map (·.index)).Pairwise (· < ·)

theorem InboxTx.AreListed.filter {n : Word} {txs : List InboxTx} (h : AreListed n txs)
    (p : InboxTx → Bool) : AreListed n (txs.filter p) where
  block tx htx := h.block tx (List.mem_of_mem_filter htx)
  index := h.index.sublist (List.filter_sublist.map _)

theorem L1Block.areListed_inboxTxs {b : L1Block} (h : (b.txs.map (·.index)).Nodup)
    (inbox : Address) : InboxTx.AreListed b.number (b.inboxTxs inbox) where
  block _ htx := (L1Block.of_mem_inboxTxs htx).2
  index := L1Block.pairwise_index_inboxTxs h inbox

namespace Intake
variable {s s' : Intake}

/-- Reading ascending blocks with ascending transactions is a run of pushes in order. -/
theorem Reads.emitsInOrder {blocks : List Block} {closed : List ClosedChannel}
    (h : s.Reads blocks closed s') (hblocks : blocks.Pairwise (·.number < ·.number))
    (hlisted : ∀ b ∈ blocks, InboxTx.AreListed b.number (b.posts.map (·.tx))) :
    s.EmitsInOrder (blocks.flatMap Block.calls) := by
  have hnumber : ∀ b ∈ blocks, ∀ p ∈ b.posts, p.tx.position = ⟨b.number, p.tx.index⟩ := by
    intro b hb p hp
    rw [InboxTx.position, (hlisted b hb).block p.tx (List.mem_map_of_mem hp)]
  have hposts : (blocks.flatMap (·.posts)).Pairwise fun p q =>
      compare p.tx.position q.tx.position = .lt := by
    rw [List.pairwise_flatMap]
    refine ⟨fun b hb => ?_, hblocks.imp_of_mem fun {b b'} hb hb' hlt p hp q hq => ?_⟩
    · have hindex := (hlisted b hb).index
      rw [List.map_map, List.pairwise_map] at hindex
      refine hindex.imp_of_mem fun {p q} hp hq hlt => ?_
      rw [hnumber b hb p hp, hnumber b hb q hq]
      show (compare b.number b.number).then (compare p.tx.index q.tx.index) = .lt
      rw [Std.compare_self]
      exact Std.compare_eq_lt.2 hlt
    · rw [hnumber b hb p hp, hnumber b' hb' q hq]
      show (compare b.number b'.number).then (compare p.tx.index q.tx.index) = .lt
      rw [Std.compare_eq_lt.2 hlt]
      rfl
  refine emitsInOrder_of_pairwise ?_
  rw [← filterMap_post?_calls, ← map_post_grants h.takeAll, List.pairwise_map] at hposts
  exact hposts

end Intake

/-! ## Scans -/

section
variable {σ : Type}

/-- The client gives blocks whose transactions have distinct indices. -/
def L1Source.TellsIndices (source : L1Source σ) : Prop :=
  ∀ n w b w', (source.block n).step w = (.ok b, w') → (b.txs.map (·.index)).Nodup

/-- The files of a chain hold transactions of the block by strictly ascending index. -/
def Disk.IsListed (chain : Word) (d : Disk) : Prop :=
  ∀ n txs, d.load? chain n = some txs → InboxTx.AreListed n txs

/-- The channels of a scan are those of a run over the blocks of the window, with transactions that
were fetched for them, and they are in order. -/
structure Session.EmitsInOrder (s : Session σ) (u : Endpoints σ) (c : Rollup) (first last : Word)
    (closed : List ClosedChannel) (blocks : List Intake.Block) : Prop where
  numbers : blocks.map (·.number) = InboxQuery.blocksBetween first last
  served : ∀ b ∈ blocks,
    b.IsServed c.query (s.TxsFrom u c.query) (s.TimingFrom u) (s.SidecarsFrom u)
  closed : (c.journal blocks).closed = closed
  inOrder : (Intake.new c.channelTimeout).EmitsInOrder (blocks.flatMap Intake.Block.calls)

/-- **A scan emits in order**, and leaves files of that kind. -/
theorem scan_emitsInOrder {u : Endpoints σ} {c : Rollup} {s s' : Session σ} {concurrency : Nat}
    {first last : Word} {closed : List ClosedChannel} {dropped : List DroppedChannel}
    (hnumbers : u.l1.TellsNumbers) (hindices : u.l1.TellsIndices)
    (hdisk : s.disk.IsListed c.l2ChainId)
    (h : (scan u c concurrency first last).step s = (.ok (closed, dropped), s')) :
    s'.disk.IsListed c.l2ChainId ∧ ∃ blocks, s.EmitsInOrder u c first last closed blocks := by
  have hself := s.serves_self u c.query
  have hserves : u.Serves c.query (fun chain n txs => s.TxsFrom u c.query chain n txs ∧
      (chain = c.l2ChainId → InboxTx.AreListed n txs)) (s.TimingFrom u) (s.SidecarsFrom u) := by
    refine ⟨fun n w b w' hblock => ⟨hself.l1 n w b w' hblock, fun _ => ?_⟩, hself.beacon⟩
    have hlisted := L1Block.areListed_inboxTxs (hindices n w b w' hblock) c.query.inbox
    rwa [hnumbers n w b w' hblock] at hlisted
  have hknows : s.Knows (fun chain n txs => s.TxsFrom u c.query chain n txs ∧
      (chain = c.l2ChainId → InboxTx.AreListed n txs)) (s.TimingFrom u) (s.SidecarsFrom u) := by
    refine ⟨fun chain n txs hload => ⟨.inl hload, fun hchain => ?_⟩, .inl, .inl⟩
    subst hchain
    exact hdisk n txs hload
  obtain ⟨⟨blocks, intake, hblocks, hserved, hreads, -⟩, hknows'⟩ :=
    (ensures_scan hserves concurrency (.inl trivial) first last).of_ok hknows h
  refine ⟨fun n txs hload => (hknows'.disk _ n txs hload).2 rfl, blocks, ⟨hblocks, ?_,
    (Intake.journal_of_takeAll hreads.takeAll).2, hreads.emitsInOrder ?_ ?_⟩⟩
  · intro b hb
    obtain ⟨⟨stored, ⟨hfrom, -⟩, htxs⟩, hblobs⟩ := hserved b hb
    exact ⟨⟨stored, hfrom, htxs⟩, hblobs⟩
  · have hpairwise := InboxQuery.pairwise_blocksBetween first last
    rwa [← hblocks, List.pairwise_map] at hpairwise
  · intro b hb
    obtain ⟨stored, ⟨-, hlisted⟩, htxs⟩ := (hserved b hb).txs
    rw [htxs]
    exact (hlisted rfl).filter _

end

/-- **Closed channels come out in order**: those of a run, if the transactions that are taken ascend
strictly, and those of a scan, if the transactions of each block have distinct indices. -/
theorem emission_in_order :
    (∀ (s : Intake) (calls : List Intake.Call),
      (s.grants calls).Pairwise Intake.Grant.Precedes → s.EmitsInOrder calls) ∧
    ∀ {σ : Type} (u : Endpoints σ) (c : Rollup) (s s' : Session σ) (concurrency : Nat)
      (first last : Word) (closed : List ClosedChannel) (dropped : List DroppedChannel),
      u.l1.TellsNumbers → u.l1.TellsIndices → s.disk.IsListed c.l2ChainId →
      (scan u c concurrency first last).step s = (.ok (closed, dropped), s') →
      s'.disk.IsListed c.l2ChainId ∧ ∃ blocks, s.EmitsInOrder u c first last closed blocks := by
  refine ⟨fun s calls h => Intake.emitsInOrder_of_pairwise h, ?_⟩
  intro σ u c s s' concurrency first last closed dropped hnumbers hindices hdisk h
  exact scan_emitsInOrder hnumbers hindices hdisk h

/-! ### An example -/

namespace Intake

/-- A channel of one frame, whose id begins with the given byte. -/
def shortChannel (first byte : UInt8) : Frame :=
  ⟨⟨[first] ++ List.replicate 15 0, rfl⟩, 0, [byte], true⟩

/-- The calldata of a transaction that closes a channel, begins it anew and closes it again, with
another channel in front. -/
def reopening : Bytes :=
  Frame.encodeAll [shortChannel 3 7, shortChannel 1 9, shortChannel 1 8]

/-- This is the second transaction of its block.  A push behind it is refused. -/
def reopeningRun : List Call :=
  [framesIn 5 [(2, 0, false)], .push ⟨{ txIn 5 2 reopening [] with index := 1 }, []⟩,
    framesIn 4 [], framesIn 6 [(2, 1, true)]]

end Intake

theorem emission_in_order_examples :
    ((Intake.new 2).grants Intake.reopeningRun).Pairwise Intake.Grant.Precedes ∧
    ((Intake.new 2).journal Intake.reopeningRun).closed.map
        (fun done => (done.closedAt, done.id.toList.head?, done.data)) =
      [(⟨5, 1⟩, some 1, [9]), (⟨5, 1⟩, some 1, [8]), (⟨5, 1⟩, some 3, [7]),
        (⟨6, 0⟩, some 2, [])] ∧
    (Intake.new 2).EmitsInOrder Intake.reopeningRun ∧
    ∃ closed dropped s', (scan threeBlocksNodes threeBlocksRollup 2 0 3).step
        ⟨(), .empty, .empty⟩ = (.ok (closed, dropped), s') ∧
      closed.map (·.closedAt) = [⟨2, 0⟩] ∧
      ∃ blocks, Session.EmitsInOrder ⟨(), .empty, .empty⟩ threeBlocksNodes threeBlocksRollup 0 3
        closed blocks := by
  obtain ⟨hruns, hscans⟩ := emission_in_order
  have hgrants : ((Intake.new 2).grants Intake.reopeningRun).map (·.post.tx.position) =
      [⟨5, 0⟩, ⟨5, 1⟩, ⟨6, 0⟩] := by decide +kernel
  have hascending : ((Intake.new 2).grants Intake.reopeningRun).Pairwise
      Intake.Grant.Precedes := by
    have hpositions : ([⟨5, 0⟩, ⟨5, 1⟩, ⟨6, 0⟩] : List L1Position).Pairwise
        (compare · · = .lt) := by decide
    rw [← hgrants, List.pairwise_map] at hpositions
    exact hpositions
  have hindices : threeBlocksNodes.l1.TellsIndices := by
    intro n w b w' hblock
    cases hblock
    show ((if n = 1 then [threeBlocksTx 1] else if n = 2 then [threeBlocksTx 0] else []).map
      (·.index)).Nodup
    by_cases hone : n = 1 <;> by_cases htwo : n = 2 <;> simp [hone, htwo]
  have hanswer : ((scan threeBlocksNodes threeBlocksRollup 2 0 3).step
      ⟨(), .empty, .empty⟩).1.map (fun r => r.1.map (·.closedAt)) = .ok [⟨2, 0⟩] := by
    decide +kernel
  refine ⟨hascending, by cbv, hruns _ _ hascending, ?_⟩
  rcases hstep : (scan threeBlocksNodes threeBlocksRollup 2 0 3).step ⟨(), .empty, .empty⟩ with
    ⟨e | ⟨closed, dropped⟩, s'⟩
  · rw [hstep] at hanswer
    cases hanswer
  · rw [hstep] at hanswer
    obtain ⟨-, hblocks⟩ := hscans threeBlocksNodes threeBlocksRollup _ s' 2 0 3 closed dropped
      threeBlocksL1.tellsNumbers_client hindices (fun _ _ h => by cases h) hstep
    exact ⟨closed, dropped, s', rfl, Except.ok.inj hanswer, hblocks⟩

end BatchInbox
