import BatchInbox.Proofs.Coverage
import BatchInbox.Proofs.Ownership
import BatchInbox.Proofs.Posted
import BatchInbox.Proofs.Wire
import BatchInbox.Resolve
import Mathlib.Data.List.Perm.Basic

/-!
# No batch is lost

A request is answered from a window of L1 blocks.  A channel that was posted around the times of the
request is in this window with all its frames, it closes while the window is read, its batches are
decoded, and every block that they cover ends up in a range.

The nodes are only trusted to tell the truth.  They may fail at any call, and the caller may give up
at any time; then there is no result.

## What is here

* `searchTimes`, `L1Chain.within` — where the frames of a channel are looked for.
* `L1Chain.Posts` — a channel is posted there, with all its frames.
* `ensures_findWindow`, `findWindow_spec` — the window holds all blocks of these times.
* `outside_findWindow` — looking for it fails outside.
* `L1Chain.Posts.whole_mem` — a posted channel closes.
* `coverage_mem_decodeChannels` — what a closed channel covers is covered.
* `resolve_complete` — every block that a channel covers lies in exactly one range.
-/

set_option autoImplicit false
namespace BatchInbox

/-- The first and the last L1 time at which batches for L2 blocks of the given times are looked
for. -/
def searchTimes (settings : ResolveSettings) (c : Rollup) (times : Word × Word) : Word × Word :=
  let margin := BlockRange.earlier settings.safetyMargin c.sequencingWindowSeconds
  (Word.subSat times.1 margin,
    Word.addSat (Word.addSat times.2 margin) c.channelTimeoutSeconds)

/-- The final blocks with times from one to another. -/
def L1Chain.within (l1 : L1Chain) (times : Word × Word) : List Word :=
  (InboxQuery.blocksBetween 0 l1.head).filter fun n =>
    times.1 ≤ l1.time n ∧ l1.time n ≤ times.2

theorem L1Chain.mem_within {l1 : L1Chain} {times : Word × Word} {n : Word} :
    n ∈ l1.within times ↔ n ≤ l1.head ∧ times.1 ≤ l1.time n ∧ l1.time n ≤ times.2 := by
  rw [within, List.mem_filter, InboxQuery.mem_blocksBetween, decide_eq_true_eq]
  exact and_congr_left fun _ => and_iff_right UInt64.zero_le

theorem L1Chain.nodup_within {l1 : L1Chain} {times : Word × Word} : (l1.within times).Nodup :=
  (InboxQuery.nodup_blocksBetween 0 l1.head).filter _

/-- The batcher posted the chunks as the frames of a channel, each of them once, in blocks with
times from one to another that are no further apart than the timeout.  Nothing else in the window
mentions the channel. -/
structure L1Chain.Posts (l1 : L1Chain) (beacon : BeaconChain) (c : Rollup) (id : ChannelId)
    (chunks : List Bytes) (times : Word × Word) (window : BlockRange) : Prop where
  one_le_length : 1 ≤ chunks.length
  length_le : chunks.length ≤ 65536
  perm : ((l1.within times).flatMap (l1.posted c id)).Perm (Frame.ofChunks id chunks)
  span : ∀ m ∈ l1.within times, ∀ n ∈ l1.within times, l1.posted c id m ≠ [] →
    l1.posted c id n ≠ [] → n.toNat ≤ m.toNat + c.channelTimeout.toNat
  posted_eq_nil : ∀ n ∈ window, n ∉ l1.within times → l1.posted c id n = []
  silent : ∀ n ∈ window, l1.BlobsAreSilent beacon c id n

/-- What has nothing in it does not matter. -/
theorem flatMap_filter_of_eq_nil {α β : Type} {f : α → List β} {p : α → Bool} {as : List α}
    (h : ∀ a ∈ as, p a = false → f a = []) : (as.filter p).flatMap f = as.flatMap f := by
  induction as with
  | nil => rfl
  | cons a as ih =>
    rw [List.forall_mem_cons] at h
    rw [List.flatMap_cons, ← ih h.2]
    cases hp : p a with
    | true => rw [List.filter_cons_of_pos hp, List.flatMap_cons]
    | false =>
      rw [List.filter_cons_of_neg (by simp [hp]), h.1 hp]
      rfl

section
variable {σ : Type} {u : Endpoints σ} {l1 : L1Chain} {beacon : BeaconChain}
  {settings : ResolveSettings} {c : Rollup}

/-! ## The window -/

/-- The parts of a window, given what its ends are known to be.  Looking for it only changes the
world. -/
theorem ensures_findWindow {times : Word × Word} {J : Session σ → Prop} {H : L1Header → Prop}
    {A B : Word → Prop} {E : RpcError → Prop} {E' : ResolveError → Prop}
    (hJ : ∀ s world, J s → J { s with world })
    (hhead : u.l1.finalized.Ensures (fun _ => True) H E)
    (hfirst : ∀ head, H head → (lastAtOrBefore u.l1 (searchTimes settings c times).1 head).Ensures
      (fun _ => True) A E)
    (hlast : ∀ head, H head → (firstAtOrAfter u.l1 (searchTimes settings c times).2 head).Ensures
      (fun _ => True) B E)
    (hfetch : ∀ e, E e → E' (.l1Fetch e))
    (hcancelled : ∀ w, u.isCancelled w = true → E' .cancelled) :
    (findWindow u settings c times).Ensures J (fun window => A window.1 ∧ B window.2) E' := by
  have hstep : ∀ {α : Type} {P : α → Prop} {e : Effect σ RpcError α},
      e.Ensures (fun _ => True) P E →
        (u.unlessCancelled (onWorld (e.mapError .l1Fetch))).Ensures J P E' :=
    fun he => ensures_unlessCancelled (ensures_onWorld hJ (he.mapError hfetch)) hcancelled
  refine (hstep hhead).bind fun head hhead' => ?_
  refine (hstep (hfirst head hhead')).bind fun first ha => ?_
  refine (hstep (hlast head hhead')).bind fun last hb => ?_
  exact .pure ⟨ha, hb⟩

/-- Whatever the client says, looking for the window fails outside. -/
theorem outside_findWindow (settings : ResolveSettings) (c : Rollup) (times : Word × Word)
    {J : Session σ → Prop} (hJ : ∀ s world, J s → J { s with world }) :
    (findWindow u settings c times).Ensures J (fun _ => True) ResolveError.IsOutside := by
  have hparts : (findWindow u settings c times).Ensures J (fun _ => True ∧ True)
      ResolveError.IsOutside :=
    ensures_findWindow (H := fun _ => True) (E := fun _ => True) hJ
      (.of_forall fun _ _ _ _ => trivial) (fun _ _ => .of_forall fun _ _ _ _ => trivial)
      (fun _ _ => .of_forall fun _ _ _ _ => trivial) (fun _ _ => ⟨nofun, nofun⟩)
      fun _ _ => ⟨nofun, nofun⟩
  exact hparts.mono (fun _ _ => trivial) fun _ => id

/-- A window from the last block up to a time to the first block from another time on. -/
def L1Chain.EndsAt (l1 : L1Chain) (times window : Word × Word) : Prop :=
  l1.IsLastUpTo times.1 window.1 ∧ l1.IsFirstFrom times.2 window.2

/-- **The ends of the window**, told by a client that tells the truth. -/
theorem L1Chain.Shows.ensures_findWindow {E : RpcError → Prop} {E' : ResolveError → Prop}
    (hshows : l1.Shows u.l1 E) (hinc : l1.IsIncreasing) (settings : ResolveSettings) (c : Rollup)
    (times : Word × Word) {J : Session σ → Prop} (hJ : ∀ s world, J s → J { s with world })
    (hfetch : ∀ e, E e → E' (.l1Fetch e))
    (hcancelled : ∀ w, u.isCancelled w = true → E' .cancelled) :
    (findWindow u settings c times).Ensures J (l1.EndsAt (searchTimes settings c times)) E' := by
  refine BatchInbox.ensures_findWindow hJ hshows.finalized ?_ ?_ hfetch hcancelled
  · rintro head rfl
    exact ensures_lastAtOrBefore hshows hinc _
  · rintro head rfl
    exact ensures_firstAtOrAfter hshows hinc _

/-- The window ends with a final block, and holds all blocks of the times in question.  Looking for
it touches neither the disk nor what is known of blobs. -/
theorem findWindow_spec (ht : l1.ToldBy u.l1) (hinc : l1.IsIncreasing) {times : Word × Word}
    {s s' : Session σ} {first last : Word}
    (h : (findWindow u settings c times).step s = (.ok (first, last), s')) :
    last ≤ l1.head ∧ (∀ n ∈ l1.within (searchTimes settings c times), first ≤ n ∧ n ≤ last) ∧
      s'.disk = s.disk ∧ s'.blobs = s.blobs := by
  have hensures : (findWindow u settings c times).Ensures
      (fun t => t.disk = s.disk ∧ t.blobs = s.blobs)
      (l1.EndsAt (searchTimes settings c times)) fun _ => True :=
    ht.shows.ensures_findWindow hinc settings c times (fun _ _ => id) (fun _ _ => trivial)
      fun _ _ => trivial
  obtain ⟨⟨hfirst, hlast⟩, hdisk, hblobs⟩ := hensures.of_ok ⟨rfl, rfl⟩ h
  refine ⟨hlast.final, fun n hn => ?_, hdisk, hblobs⟩
  obtain ⟨hn, hearly, hlate⟩ := L1Chain.mem_within.1 hn
  exact ⟨hfirst.le hinc hearly, hlast.le hinc hn hlate⟩

/-! ## The posted channel -/

section
variable {id : ChannelId} {chunks : List Bytes} {times : Word × Word} {window : BlockRange}
  {blocks : List Intake.Block}

/-- All of a posted channel is read, and each frame of it once. -/
theorem L1Chain.Posts.own_perm (h : l1.Posts beacon c id chunks times window)
    (hwithin : ∀ n ∈ l1.within times, n ∈ window)
    (hnumbers : blocks.map (·.number) = InboxQuery.blocksBetween window.first window.last)
    (hsupplies : ∀ b ∈ blocks, l1.Supplies beacon c.query b) :
    (blocks.flatMap (Intake.Block.own id)).Perm (Frame.ofChunks id chunks) := by
  have hmem : ∀ b ∈ blocks, b.number ∈ window := fun _ hb =>
    InboxQuery.number_mem_of_map_eq hnumbers hb
  have hread : (blocks.flatMap (Intake.Block.own id)).Perm
      ((InboxQuery.blocksBetween window.first window.last).flatMap (l1.posted c id)) := by
    rw [← hnumbers, List.flatMap_map]
    exact List.Perm.flatMap_left blocks fun b hb =>
      L1Chain.own_perm_posted (hsupplies b hb) (h.silent _ (hmem b hb))
  have hnone : ∀ n ∈ InboxQuery.blocksBetween window.first window.last,
      decide (n ∈ l1.within times) = false → l1.posted c id n = [] := fun n hn hout =>
    h.posted_eq_nil n (InboxQuery.mem_blocksBetween.1 hn) (of_decide_eq_false hout)
  have hsame : ((InboxQuery.blocksBetween window.first window.last).filter
      (· ∈ l1.within times)).Perm (l1.within times) := by
    rw [List.perm_ext_iff_of_nodup ((InboxQuery.nodup_blocksBetween _ _).filter _)
      L1Chain.nodup_within]
    intro n
    rw [List.mem_filter, decide_eq_true_eq, and_iff_right_iff_imp]
    exact fun hn => InboxQuery.mem_blocksBetween.2 (hwithin n hn)
  rw [← flatMap_filter_of_eq_nil hnone] at hread
  exact (hread.trans (hsame.flatMap_right _)).trans h.perm

/-- A block of the window with frames of a posted channel has one of the times in question. -/
theorem L1Chain.Posts.mem_within_of_own (h : l1.Posts beacon c id chunks times window)
    {b : Intake.Block} (hb : b.number ∈ window) (hsupplies : l1.Supplies beacon c.query b)
    (hown : b.own id ≠ []) : l1.posted c id b.number ≠ [] ∧ b.number ∈ l1.within times := by
  have hne : l1.posted c id b.number ≠ [] := by
    intro hnil
    have hperm := L1Chain.own_perm_posted hsupplies (h.silent _ hb)
    rw [hnil] at hperm
    exact hown hperm.eq_nil
  exact ⟨hne, not_not.1 fun hout => hne (h.posted_eq_nil _ hb hout)⟩

/-- **A posted channel closes**, with all its data, while the window is read. -/
theorem L1Chain.Posts.whole_mem (h : l1.Posts beacon c id chunks times window)
    (hwithin : ∀ n ∈ l1.within times, n ∈ window)
    (hnumbers : blocks.map (·.number) = InboxQuery.blocksBetween window.first window.last)
    (hsupplies : ∀ b ∈ blocks, l1.Supplies beacon c.query b) {closed : List ClosedChannel}
    {intake : Intake} (hreads : (Intake.new c.channelTimeout).Reads blocks closed intake) :
    ∃ channel ∈ closed, channel.data = chunks.flatten := by
  have hall : Frame.IsWhole id (Frame.ofChunks id chunks) :=
    Frame.isWhole_ofChunks h.one_le_length h.length_le
  have hmem : ∀ b ∈ blocks, b.number ∈ window := fun _ hb =>
    InboxQuery.number_mem_of_map_eq hnumbers hb
  have hspan : ∀ a ∈ blocks, ∀ b ∈ blocks, a.own id ≠ [] → b.own id ≠ [] →
      b.number.toNat ≤ a.number.toNat + c.channelTimeout.toNat := by
    intro a ha b hb hane hbne
    obtain ⟨haposted, hawithin⟩ := h.mem_within_of_own (hmem a ha) (hsupplies a ha) hane
    obtain ⟨hbposted, hbwithin⟩ := h.mem_within_of_own (hmem b hb) (hsupplies b hb) hbne
    exact h.span _ hawithin _ hbwithin haposted hbposted
  have horder : blocks.Pairwise (·.number < ·.number) := by
    rw [← List.pairwise_map, hnumbers]
    exact InboxQuery.pairwise_blocksBetween _ _
  have hblock : ∀ b ∈ blocks, ∀ p ∈ b.posts, p.tx.block = b.number := by
    intro b hb p hp
    obtain ⟨-, -, -, hnumber, -⟩ :=
      L1Chain.mem_wanted ((hsupplies b hb).1 ▸ List.mem_map_of_mem hp)
    exact hnumber
  have hcount : ∀ b ∈ blocks, ∀ p ∈ b.posts, p.own id ≠ [] → p.HasBlobs := fun b hb p hp =>
    L1Chain.hasBlobs_of_own (hsupplies b hb) (h.silent _ (hmem b hb)) hp
  obtain ⟨first, closedAt, hwhole⟩ :=
    hreads.exists_whole_mem hall (h.own_perm hwithin hnumbers hsupplies) hspan horder hblock hcount
      rfl
  exact ⟨_, hwhole, Frame.flatMap_data_ofChunks id chunks⟩

end

/-! ## The channels -/

/-- What a closed channel covers is among what is covered. -/
theorem coverage_mem_decodeChannels {limit : Word} {closed : List ClosedChannel}
    {decoded : List Coverage × List ResolveWarning}
    (hdecoded : decodeChannels c limit closed = .ok decoded) {channel : ClosedChannel}
    (h : channel ∈ closed) {covered : List Coverage}
    (hcovered : channel.coverage c limit = .ok covered) :
    ∀ coverage ∈ covered, coverage ∈ decoded.1 := by
  induction closed generalizing decoded with
  | nil => exact absurd h List.not_mem_nil
  | cons other closed ih =>
    intro coverage hmem
    rw [decodeChannels] at hdecoded
    split at hdecoded
    · cases hdecoded
    · rename_i rest warnings hrest
      rcases List.mem_cons.1 h with rfl | h
      · rw [hcovered] at hdecoded
        cases hdecoded
        exact List.mem_append_left _ hmem
      · have hold : coverage ∈ rest := ih hrest h coverage hmem
        split at hdecoded
        · cases hdecoded
          exact List.mem_append_right _ hold
        · cases hdecoded
        · cases hdecoded
          exact hold

/-- Decoding channels fails only if the program stops, and that is at the largest limit. -/
theorem decodeChannels_eq_error {limit : Word} {closed : List ClosedChannel} {e : ResolveError}
    (h : decodeChannels c limit closed = .error e) : e = .overflow ∧ limit = Word.max := by
  induction closed with
  | nil => cases h
  | cons channel closed ih =>
    rw [decodeChannels] at h
    split at h
    · rename_i hrest
      cases h
      exact ih hrest
    · split at h
      · cases h
      · rename_i hcoverage
        cases h
        obtain ⟨-, -, -, hmax⟩ := Compression.decompress_eq_overflow_iff.1
          (ClosedChannel.coverage_eq_overflow_iff.1 hcoverage)
        exact ⟨rfl, hmax⟩
      · cases h

/-- Why there is no result for the channels of a window. -/
theorem assemble_eq_error {request window : BlockRange} {closed : List ClosedChannel}
    {dropped : List DroppedChannel} {e : ResolveError}
    (h : assemble settings c request window closed dropped = .error e) :
    (e = .overflow ∧ settings.maxChannelSize = Word.max) ∨ ∃ missing, e = .coverageGap missing := by
  rw [assemble] at h
  split at h
  · rename_i hdecoded
    cases h
    exact .inl (decodeChannels_eq_error hdecoded)
  · simp only at h
    split at h <;> cases h
    exact .inr ⟨_, rfl⟩

/-- A result has the ranges of the partition and all warnings, and names the window. -/
theorem assemble_spec {request window : BlockRange} {closed : List ClosedChannel}
    {dropped : List DroppedChannel} {res : Resolution}
    (h : assemble settings c request window closed dropped = .ok res) :
    ∃ decoded, decodeChannels c settings.maxChannelSize closed = .ok decoded ∧
      res = {
        ranges := (Partition.ofCoverages decoded.1 request).ranges
        warnings :=
          dropped.filterMap dropWarning? ++ decoded.2 ++
            (Partition.ofCoverages decoded.1 request).overlaps.map overlapWarning
        l1Start := window.first
        l1End := window.last } := by
  rw [assemble] at h
  split at h
  · exact absurd h nofun
  · rename_i coverage warnings hdecoded
    simp only at h
    split at h
    · exact absurd h nofun
    · exact ⟨_, hdecoded, (Except.ok.inj h).symm⟩

/-- The steps of a request. -/
theorem step_resolve (u : Endpoints σ) (settings : ResolveSettings) (c : Rollup) (start last : Word)
    (s : Session σ) :
    (resolve u settings c start last).step s =
      match requestTimes c start last with
      | .error cause => (.error (.invalidRequest cause), s)
      | .ok times =>
        match (findWindow u settings c times).step s with
        | (.error e, s₁) => (.error e, s₁)
        | (.ok (first, final), s₁) =>
          (((scan u c settings.concurrency first final).step s₁).1.bind fun read =>
              assemble settings c ⟨start, last⟩ ⟨first, final⟩ read.1 read.2,
            ((scan u c settings.concurrency first final).step s₁).2) := by
  rw [resolve]
  cases requestTimes c start last with
  | error cause => rfl
  | ok times =>
    simp only
    rw [Effect.step_bind]
    rcases (findWindow u settings c times).step s with ⟨e | ⟨first, final⟩, s₁⟩
    · rfl
    · simp only
      rw [Effect.step_bind]
      rcases (scan u c settings.concurrency first final).step s₁ with ⟨e | ⟨closed, dropped⟩, s₂⟩
      · rfl
      · simp only [Except.bind]
        cases assemble settings c ⟨start, last⟩ ⟨first, final⟩ closed dropped <;> rfl

/-- The parts of a request that succeeds. -/
theorem resolve_eq_ok {start last : Word} {s s' : Session σ} {r : Resolution}
    (h : (resolve u settings c start last).step s = (.ok r, s')) :
    ∃ times s₁ closed dropped, requestTimes c start last = .ok times ∧
      (findWindow u settings c times).step s = (.ok (r.l1Start, r.l1End), s₁) ∧
      (scan u c settings.concurrency r.l1Start r.l1End).step s₁ = (.ok (closed, dropped), s') ∧
      assemble settings c ⟨start, last⟩ ⟨r.l1Start, r.l1End⟩ closed dropped = .ok r := by
  rw [step_resolve] at h
  split at h
  · exact absurd h nofun
  · rename_i times htimes
    split at h
    · exact absurd h nofun
    · rename_i first final s₁ hwindow
      rcases hscan : (scan u c settings.concurrency first final).step s₁ with
        ⟨e | ⟨closed, dropped⟩, s₂⟩ <;> rw [hscan] at h
      · exact absurd h nofun
      · obtain ⟨hassemble, rfl⟩ := Prod.mk.inj h
        obtain ⟨decoded, -, rfl⟩ := assemble_spec hassemble
        exact ⟨times, s₁, closed, dropped, htimes, hwindow, hscan, hassemble⟩

/-- The parts of a request that was answered. -/
theorem resolve_spec (ht : l1.ToldBy u.l1) (hb : beacon.ToldBy u.beacon) (hinc : l1.IsIncreasing)
    {start last : Word} {w : σ} {res : Resolution}
    (h : ((resolve u settings c start last).step ⟨w, .empty, .empty⟩).1 = .ok res)
    {times : Word × Word} (htimes : requestTimes c start last = .ok times) :
    (∀ n ∈ l1.within (searchTimes settings c times), res.l1Start ≤ n ∧ n ≤ res.l1End) ∧
      ∃ (blocks : List Intake.Block) (closed : List ClosedChannel) (intake : Intake)
        (decoded : List Coverage × List ResolveWarning),
        blocks.map (·.number) = InboxQuery.blocksBetween res.l1Start res.l1End ∧
        (∀ b ∈ blocks, l1.Supplies beacon c.query b) ∧
        (Intake.new c.channelTimeout).Reads blocks closed intake ∧
        decodeChannels c settings.maxChannelSize closed = .ok decoded ∧
        res.ranges = (Partition.ofCoverages decoded.1 ⟨start, last⟩).ranges := by
  obtain ⟨times', ⟨w₁, disk, blobs⟩, closed, dropped, htimes', hwindow, hscan, hassemble⟩ :=
    resolve_eq_ok (Prod.ext h rfl)
  rw [htimes] at htimes'
  cases htimes'
  obtain ⟨hfinal, hwithin, hdisk, hblobs⟩ := findWindow_spec ht hinc hwindow
  obtain rfl : disk = .empty := hdisk
  obtain rfl : blobs = .empty := hblobs
  obtain ⟨blocks, intake, hnumbers, hsupplies, hreads⟩ := scan_spec ht hb hfinal hscan
  obtain ⟨decoded, hdecoded, hres⟩ := assemble_spec hassemble
  exact ⟨hwithin, blocks, closed, intake, decoded, hnumbers, hsupplies, hreads, hdecoded,
    congrArg Resolution.ranges hres⟩

/-! ## No block is lost -/

/-- **No batch is lost.**  A request was answered, by nodes that tell the truth about an L1 whose
times ascend, and with nothing on disk.  Then every block of the request that a batch of a posted
channel covers lies in exactly one range of the result. -/
theorem resolve_complete {id : ChannelId} {chunks : List Bytes} {channel : ClosedChannel}
    {covered : List Coverage} {start last : Word} {w : σ} {res : Resolution}
    {times : Word × Word} (ht : l1.ToldBy u.l1) (hb : beacon.ToldBy u.beacon)
    (hinc : l1.IsIncreasing)
    (hanswer : ((resolve u settings c start last).step ⟨w, .empty, .empty⟩).1 = .ok res)
    (htimes : requestTimes c start last = .ok times)
    (hposts : l1.Posts beacon c id chunks (searchTimes settings c times)
      ⟨res.l1Start, res.l1End⟩)
    (hdata : channel.data = chunks.flatten)
    (hcovered : channel.coverage c settings.maxChannelSize = .ok covered) :
    ∀ coverage ∈ covered, ∀ b ∈ coverage.range, b ∈ (⟨start, last⟩ : BlockRange) →
      res.ranges.countP (fun r => b ∈ r) = 1 := by
  obtain ⟨hwithin, blocks, closed, intake, decoded, hnumbers, hsupplies, hreads, hdecoded,
    hranges⟩ := resolve_spec ht hb hinc hanswer htimes
  obtain ⟨channel', hmem, hdata'⟩ := hposts.whole_mem hwithin hnumbers hsupplies hreads
  obtain ⟨covered', hcovered', hsame⟩ :=
    ClosedChannel.range_coverage (hdata'.trans hdata.symm) hcovered
  intro coverage hcoverage b hb hrequest
  have hrange : coverage.range ∈ covered'.map (·.range) :=
    hsame ▸ List.mem_map_of_mem hcoverage
  obtain ⟨coverage', hcoverage', heq⟩ := List.mem_map.1 hrange
  rw [hranges]
  refine Partition.countP_ofCoverages hrequest ⟨coverage', ?_, heq ▸ hb⟩
  exact coverage_mem_decodeChannels hdecoded hmem hcovered' coverage' hcoverage'

end

/-! ### An example

The channel of three blocks, posted in two L1 blocks: the second frame comes first. -/

/-- A chain with blocks every two seconds, and channels of two L1 blocks. -/
def threeBlocksRollup : Rollup :=
  ⟨901, 900, 0, 90, 2, BytesN.zero 20, BytesN.zero 20, 1, 4⟩

/-- Little time around the request. -/
def threeBlocksSettings : ResolveSettings := ⟨2, 2, true, 1000⟩

/-- A frame of the channel as the batcher sends it. -/
def threeBlocksTx (number : UInt16) : L1Tx :=
  ⟨BytesN.zero 32, 0, BytesN.zero 20, some (BytesN.zero 20), 2,
    Frame.encodeAll [Intake.threeBlocksFrame number], []⟩

/-- Six blocks, two of which have a frame of the channel. -/
def threeBlocksL1 : L1Chain where
  head := 5
  time n := 100 + 12 * n
  txs n := if n = 1 then [threeBlocksTx 1] else if n = 2 then [threeBlocksTx 0] else []

/-- There are no blobs. -/
def noBlobs : BeaconChain := ⟨⟨0, 12⟩, fun _ => []⟩

/-- The nodes of the three blocks. -/
def threeBlocksNodes : Endpoints Unit := ⟨threeBlocksL1.client, noBlobs.node, fun _ => false⟩

theorem threeBlocksL1_isIncreasing : threeBlocksL1.IsIncreasing := by
  have htime : ∀ n : Word, n.toNat ≤ 5 → (threeBlocksL1.time n).toNat = 100 + 12 * n.toNat := by
    intro n hn
    rw [threeBlocksL1, UInt64.toNat_add, UInt64.toNat_mul]
    change (100 + 12 * n.toNat % 2 ^ 64) % 2 ^ 64 = _
    omega
  intro m n hmn hn
  have hn : n.toNat ≤ 5 := UInt64.le_iff_toNat_le.1 hn
  rw [UInt64.lt_iff_toNat_lt] at hmn ⊢
  rw [htime m (by omega), htime n hn]
  omega

theorem threeBlocksL1_posts :
    threeBlocksL1.Posts noBlobs threeBlocksRollup (BytesN.zero 16) Intake.threeBlocksChunks
      (108, 128) ⟨0, 3⟩ := by
  have hwithin : threeBlocksL1.within (108, 128) = [1, 2] := by decide +kernel
  refine ⟨by decide, by decide, ?_, ?_, ?_, ?_⟩
  · rw [hwithin]
    decide +kernel
  · have hspan : ∀ m ∈ ([1, 2] : List Word), ∀ n ∈ ([1, 2] : List Word),
        n.toNat ≤ m.toNat + threeBlocksRollup.channelTimeout.toNat := by
      simp [threeBlocksRollup]
    rw [hwithin]
    exact fun m hm n hn _ _ => hspan m hm n hn
  · intro n _ hout
    rw [hwithin, List.mem_cons, List.mem_singleton, not_or] at hout
    have htxs : threeBlocksL1.txs n = [] := by
      rw [threeBlocksL1]
      simp only [if_neg hout.1, if_neg hout.2]
    rw [L1Chain.posted, htxs]
    rfl
  · rintro n - tx - - blob ⟨slot, -, sidecar, hsidecar, -⟩
    exact absurd hsidecar List.not_mem_nil

theorem resolve_complete_threeBlocks : ∃ res,
    ((resolve ⟨threeBlocksL1.client, noBlobs.node, fun _ => false⟩ threeBlocksSettings
      threeBlocksRollup 10 12).step ⟨(), .empty, .empty⟩).1 = .ok res ∧
      ∀ b ∈ (⟨10, 12⟩ : BlockRange), res.ranges.countP (fun r => b ∈ r) = 1 := by
  have hdata : Intake.threeBlocksData = Intake.threeBlocksChunks.flatten := by decide +kernel
  have hanswer : ((resolve ⟨threeBlocksL1.client, noBlobs.node, fun _ => false⟩
      threeBlocksSettings threeBlocksRollup 10 12).step ⟨(), .empty, .empty⟩).1 =
        .ok ⟨[⟨10, 12⟩], [], 0, 3⟩ := by decide +kernel
  have hcovered : (⟨BytesN.zero 16, 1, ⟨2, 0⟩, 2, Intake.threeBlocksData⟩ : ClosedChannel).coverage
      threeBlocksRollup 1000 = .ok [⟨⟨10, 12⟩, .span, BytesN.zero 16, ⟨2, 0⟩, 0⟩] := by
    decide +kernel
  refine ⟨_, hanswer, fun b hb => ?_⟩
  exact resolve_complete threeBlocksL1.toldBy_client noBlobs.toldBy_node
    threeBlocksL1_isIncreasing hanswer rfl threeBlocksL1_posts hdata hcovered _
    (List.mem_singleton_self _) b hb hb

end BatchInbox
