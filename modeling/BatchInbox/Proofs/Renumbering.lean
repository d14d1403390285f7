import BatchInbox.Proofs.Intake
import BatchInbox.Proofs.Tracking
import BatchInbox.Resolve

/-!
# Only the order of transactions matters

A transaction has a place on L1, and the place goes with the channel that it completes and with the
batches of that channel.  There it decides which batch was seen first, and for this only the order of
places matters.  So if the transactions of a block are numbered in another way that keeps their
order, the result of a request is the same.

## What is here

* `L1Position.KeepsOrder` — a correspondence of places.
* `InboxTx.Alike`, `ClosedChannel.Alike`, `Coverage.Alike`, `Overlap.Alike` — the same, at places
  that correspond.
* `Intake.alike_push` — pushing transactions that are alike.
* `alike_decodeChannels`, `Partition.alike_ofCoverages` — decoding channels, and giving out blocks.
* `assemble_eq` — the result is the same.
-/

set_option autoImplicit false
namespace BatchInbox

/-- Sorting keeps together what belongs together, if it is in the same order. -/
theorem forall₂_mergeSort {α β : Type} {R : α → β → Prop} {as : List α} {bs : List β}
    {le : α → α → Bool} {le' : β → β → Bool}
    (hle : ∀ a a' b b', R a b → R a' b' → le a a' = le' b b') (h : List.Forall₂ R as bs) :
    List.Forall₂ R (as.mergeSort le) (bs.mergeSort le') := by
  obtain ⟨pairs, hpairs, rfl, rfl⟩ : ∃ pairs : List (α × β),
      (∀ p ∈ pairs, R p.1 p.2) ∧ pairs.map (·.1) = as ∧ pairs.map (·.2) = bs := by
    induction h with
    | nil => exact ⟨[], nofun, rfl, rfl⟩
    | @cons a b _ _ hab _ ih =>
      obtain ⟨pairs, hpairs, rfl, rfl⟩ := ih
      exact ⟨(a, b) :: pairs, List.forall_mem_cons.2 ⟨hab, hpairs⟩, rfl, rfl⟩
  have hsame : ∀ p ∈ pairs, ∀ q ∈ pairs, le p.1 q.1 = le' p.2 q.2 := fun p hp q hq =>
    hle _ _ _ _ (hpairs p hp) (hpairs q hq)
  rw [← List.map_mergeSort (r := fun p q => le p.1 q.1) fun p _ q _ => rfl,
    ← List.map_mergeSort (r := fun p q => le p.1 q.1) hsame]
  rw [List.forall₂_map_left_iff, List.forall₂_map_right_iff, List.forall₂_same]
  exact fun p hp => hpairs p (List.mem_mergeSort.1 hp)

/-- Places that correspond are in the same order, and in blocks of the same number. -/
structure L1Position.KeepsOrder (S : L1Position → L1Position → Prop) : Prop where
  block : ∀ {p p'}, S p p' → p.block = p'.block
  compare : ∀ {p p' q q'}, S p p' → S q q' → compare p q = compare p' q'

/-- Places that are equal correspond. -/
theorem L1Position.keepsOrder_eq : L1Position.KeepsOrder Eq where
  block h := by rw [h]
  compare h h' := by rw [h, h']

/-- Transactions that differ in their places only. -/
structure InboxTx.Alike (S : L1Position → L1Position → Prop) (tx tx' : InboxTx) : Prop where
  eq : tx' = { tx with index := tx'.index }
  position : S tx.position tx'.position

/-- Transactions are like themselves. -/
theorem InboxTx.forall₂_alike_refl (txs : List InboxTx) : List.Forall₂ (InboxTx.Alike Eq) txs txs :=
  List.forall₂_same.2 fun _ _ => ⟨rfl, rfl⟩

/-- Channels that differ in the places of the transactions that completed them. -/
structure ClosedChannel.Alike (S : L1Position → L1Position → Prop) (c c' : ClosedChannel) :
    Prop where
  eq : c' = { c with closedAt := c'.closedAt }
  closedAt : S c.closedAt c'.closedAt

/-- Batches of channels that are alike. -/
structure Coverage.Alike (S : L1Position → L1Position → Prop) (c c' : Coverage) : Prop where
  eq : c' = { c with closedAt := c'.closedAt }
  closedAt : S c.closedAt c'.closedAt

/-- Overlaps that differ in the places of the later batches. -/
def Overlap.Alike (o o' : Overlap) : Prop := o' = { o with droppedAt := o'.droppedAt }

section
variable {S : L1Position → L1Position → Prop}

/-! ## The intake -/

namespace Intake

/-- A frame from places in one block does the same, and completes channels that are alike. -/
theorem alike_add (t : ChannelTable) (f : Frame) {source source' : L1Position} (h : S source source')
    (hblock : source.block = source'.block) :
    List.Forall₂ (ClosedChannel.Alike S) (t.add f source).1.toOption.join.toList
        (t.add f source').1.toOption.join.toList ∧
      (t.add f source').2 = (t.add f source).2 := by
  have haddTo : ∀ c, List.Forall₂ (ClosedChannel.Alike S)
      (t.addTo c f source).1.toOption.join.toList (t.addTo c f source').1.toOption.join.toList ∧
      (t.addTo c f source').2 = (t.addTo c f source).2 := by
    intro c
    rw [ChannelTable.addTo, ChannelTable.addTo]
    split
    · exact ⟨.nil, rfl⟩
    · split
      · exact ⟨.cons ⟨rfl, h⟩ .nil, rfl⟩
      · exact ⟨.nil, rfl⟩
  rw [ChannelTable.add, ChannelTable.add, hblock]
  split
  · exact ⟨.nil, rfl⟩
  · exact haddTo _
  · exact haddTo _

/-- The frames of a transaction complete channels that are alike. -/
theorem alike_takeFrames {source source' : L1Position} (h : S source source')
    (hblock : source.block = source'.block) {closed closed' : List ClosedChannel}
    (hclosed : List.Forall₂ (ClosedChannel.Alike S) closed closed') (t : ChannelTable)
    (frames : List Frame) :
    List.Forall₂ (ClosedChannel.Alike S) (takeFrames source closed t frames).1
        (takeFrames source' closed' t frames).1 ∧
      (takeFrames source' closed' t frames).2 = (takeFrames source closed t frames).2 := by
  induction frames generalizing closed closed' t with
  | nil => exact ⟨hclosed, rfl⟩
  | cons f frames ih =>
    obtain ⟨hdone, htable⟩ := alike_add t f h hblock
    rw [takeFrames_cons, takeFrames_cons, htable]
    exact ih (List.rel_append hclosed hdone) _

/-- **Transactions that are alike** take the intake to the same state, and complete channels that are
alike; or both are refused, for the same reason. -/
theorem alike_push (hS : L1Position.KeepsOrder S) (s : Intake) {tx tx' : InboxTx}
    (h : tx.Alike S tx') (blobs : List Blob) :
    BatchInbox.Alike False (List.Forall₂ (ClosedChannel.Alike S)) (s.push tx blobs).1
        (s.push tx' blobs).1 ∧
      (s.push tx' blobs).2 = (s.push tx blobs).2 := by
  obtain ⟨heq, hposition⟩ := h
  have hblock : tx'.block = tx.block := by rw [heq]
  have hsource : tx'.payloadSource = tx.payloadSource := by rw [heq]; rfl
  have hhashes : tx'.blobHashes = tx.blobHashes := by rw [heq]
  have hframes : tx'.frames blobs = tx.frames blobs := by rw [heq]; rfl
  rw [push, push, hblock, hsource, hhashes, hframes]
  split
  · exact ⟨.error _, rfl⟩
  · rename_i s' _
    split
    · exact ⟨.error _, rfl⟩
    · obtain ⟨hdone, htable⟩ :=
        alike_takeFrames hposition (hS.block hposition) .nil s'.table (tx.frames blobs)
      refine ⟨.ok (forall₂_mergeSort ?_ hdone), by simp only [htable]⟩
      intro a a' b b' hab hab'
      rw [hab.eq, hab'.eq]

end Intake

/-! ## Channels -/

/-- Channels that are alike hold the same batches. -/
theorem alike_coverage {c c' : ClosedChannel} (h : c.Alike S c') (config : Rollup) (limit : Word) :
    Alike False (List.Forall₂ (Coverage.Alike S)) (c.coverage config limit)
      (c'.coverage config limit) := by
  have hcoverageOf : ∀ index batches, Alike False (List.Forall₂ (Coverage.Alike S))
      (c.coverageOf config index batches) (c'.coverageOf config index batches) := by
    intro index batches
    induction batches generalizing index with
    | nil => exact .ok .nil
    | cons b batches ih =>
      rw [ClosedChannel.coverageOf, ClosedChannel.coverageOf]
      cases b.blocks config with
      | error cause => exact .error _
      | ok range =>
        have hrest := ih (index + 1)
        simp only
        generalize c.coverageOf config (index + 1) batches = r at hrest ⊢
        generalize c'.coverageOf config (index + 1) batches = r' at hrest ⊢
        cases hrest with
        | ok hrest => exact .ok (.cons ⟨by rw [h.eq], h.closedAt⟩ hrest)
        | error e => exact .error e
        | excused h => exact h.elim
  have hbatches : c'.batches limit = c.batches limit := by
    rw [ClosedChannel.batches, ClosedChannel.batches, h.eq]
  rw [ClosedChannel.coverage, ClosedChannel.coverage, hbatches]
  cases c.batches limit with
  | error e => exact .error e
  | ok batches => exact hcoverageOf 0 batches

/-- **Decoding channels that are alike** gives batches that are alike, and the same warnings. -/
theorem alike_decodeChannels {closed closed' : List ClosedChannel}
    (h : List.Forall₂ (ClosedChannel.Alike S) closed closed') (config : Rollup) (limit : Word) :
    Alike False (fun decoded decoded' =>
        List.Forall₂ (Coverage.Alike S) decoded.1 decoded'.1 ∧ decoded'.2 = decoded.2)
      (decodeChannels config limit closed) (decodeChannels config limit closed') := by
  induction h with
  | nil => exact .ok ⟨.nil, rfl⟩
  | @cons c c' closed closed' hc _ ih =>
    have hwarning : ∀ cause, decodeWarning c' cause = decodeWarning c cause := by
      intro cause
      rw [hc.eq]
      rfl
    have hcoverage := alike_coverage hc config limit
    rw [decodeChannels, decodeChannels]
    simp only [hwarning]
    generalize decodeChannels config limit closed = rest at ih ⊢
    generalize decodeChannels config limit closed' = rest' at ih ⊢
    cases ih with
    | error e => exact .error e
    | excused h => exact h.elim
    | @ok decoded decoded' hrest =>
      obtain ⟨hcovers, hwarnings⟩ := hrest
      generalize c.coverage config limit = r at hcoverage ⊢
      generalize c'.coverage config limit = r' at hcoverage ⊢
      cases hcoverage with
      | ok hcovered => exact .ok ⟨List.rel_append hcovered hcovers, hwarnings⟩
      | excused h => exact h.elim
      | error cause =>
        cases cause with
        | overflow => exact .error _
        | _ => exact .ok ⟨hcovers, congrArg (decodeWarning c _ :: ·) hwarnings⟩

/-! ## Blocks -/

namespace Partition

/-- Cutting a batch is not a matter of its place. -/
theorem alike_cut (source source' : L1Position) (wanted : BlockRange) (next : Word)
    (conflicts : List BlockRange) :
    (cut source' wanted next conflicts).1 = (cut source wanted next conflicts).1 ∧
      List.Forall₂ Overlap.Alike (cut source wanted next conflicts).2
        (cut source' wanted next conflicts).2 := by
  have hoverlap : ∀ kept, List.Forall₂ Overlap.Alike (overlap? source wanted kept).toList
      (overlap? source' wanted kept).toList := by
    intro kept
    rw [overlap?, overlap?]
    cases kept.clip? wanted with
    | none => exact .nil
    | some dropped => exact .cons rfl .nil
  induction conflicts generalizing next with
  | nil => exact ⟨rfl, .nil⟩
  | cons kept conflicts ih =>
    rw [cut, cut]
    split
    · exact ⟨rfl, hoverlap kept⟩
    · rename_i after _
      exact ⟨congrArg (BlockRange.before next kept ++ ·) (ih after).1,
        List.rel_append (hoverlap kept) (ih after).2⟩

/-- Partitions with the same ranges, and overlaps that are alike. -/
structure Alike (p p' : Partition) : Prop where
  ranges : p'.ranges = p.ranges
  overlaps : List.Forall₂ Overlap.Alike p.overlaps p'.overlaps

theorem Alike.claim {p p' : Partition} (h : p.Alike p') {c c' : Coverage} (hc : c.Alike S c')
    (bounds : BlockRange) : (claim bounds p c).Alike (claim bounds p' c') := by
  have hrange : c'.range = c.range := by rw [hc.eq]
  rw [Partition.claim, Partition.claim, hrange]
  split
  · exact h
  · rename_i wanted _
    obtain ⟨hpieces, hoverlaps⟩ := alike_cut c.closedAt c'.closedAt wanted wanted.first
      (BlockRange.conflicts p.ranges wanted)
    rw [take, take, h.ranges]
    exact ⟨congrArg (BlockRange.insertAll · _) hpieces, List.rel_append h.overlaps hoverlaps⟩

/-- **Batches that are alike** get the same blocks. -/
theorem alike_ofCoverages (hS : L1Position.KeepsOrder S) {cs cs' : List Coverage}
    (h : List.Forall₂ (Coverage.Alike S) cs cs') (bounds : BlockRange) :
    (ofCoverages cs bounds).Alike (ofCoverages cs' bounds) := by
  have hsorted : List.Forall₂ (Coverage.Alike S)
      (cs.mergeSort fun a b => (a.seenOrder b).isLE)
      (cs'.mergeSort fun a b => (a.seenOrder b).isLE) := by
    refine forall₂_mergeSort (fun a a' b b' hab hab' => ?_) h
    have hchannel : b.channel = a.channel ∧ b'.channel = a'.channel := by
      rw [hab.eq, hab'.eq]; exact ⟨rfl, rfl⟩
    have hindex : b.index = a.index ∧ b'.index = a'.index := by
      rw [hab.eq, hab'.eq]; exact ⟨rfl, rfl⟩
    rw [Coverage.seenOrder, Coverage.seenOrder, hS.compare hab.closedAt hab'.closedAt, hchannel.1,
      hchannel.2, hindex.1, hindex.2]
  have hfold : ∀ {ds ds' : List Coverage} {p p' : Partition},
      List.Forall₂ (Coverage.Alike S) ds ds' → p.Alike p' →
        (ds.foldl (Partition.claim bounds) p).Alike (ds'.foldl (Partition.claim bounds) p') := by
    intro ds ds' p p' hds
    induction hds generalizing p p' with
    | nil => exact id
    | cons hc _ ih => exact fun hp => ih (hp.claim hc bounds)
  exact hfold hsorted ⟨rfl, .nil⟩

end Partition

/-! ## The result -/

/-- No warning mentions the place of a later batch. -/
theorem map_overlapWarning {os os' : List Overlap} (h : List.Forall₂ Overlap.Alike os os') :
    os'.map overlapWarning = os.map overlapWarning := by
  induction h with
  | nil => rfl
  | @cons o o' _ _ ho _ ih =>
    have hwarning : overlapWarning o' = overlapWarning o := by
      rw [ho]
      rfl
    rw [List.map_cons, List.map_cons, hwarning, ih]

/-- **The result is the same** for channels that are alike. -/
theorem assemble_eq (hS : L1Position.KeepsOrder S) {closed closed' : List ClosedChannel}
    (h : List.Forall₂ (ClosedChannel.Alike S) closed closed') (settings : ResolveSettings)
    (c : Rollup) (request window : BlockRange) (dropped : List DroppedChannel) :
    assemble settings c request window closed' dropped =
      assemble settings c request window closed dropped := by
  have hdecoded := alike_decodeChannels h c settings.maxChannelSize
  rw [assemble, assemble]
  generalize decodeChannels c settings.maxChannelSize closed = r at hdecoded ⊢
  generalize decodeChannels c settings.maxChannelSize closed' = r' at hdecoded ⊢
  cases hdecoded with
  | error e => rfl
  | excused h => exact h.elim
  | ok hdecoded =>
    obtain ⟨hcoverage, hwarnings⟩ := hdecoded
    obtain ⟨hranges, hoverlaps⟩ := Partition.alike_ofCoverages hS hcoverage request
    simp only
    rw [hranges, hwarnings, map_overlapWarning hoverlaps]

end
end BatchInbox
