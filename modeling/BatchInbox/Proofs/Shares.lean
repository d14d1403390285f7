import BatchInbox.Proofs.Narrowing
import Mathlib.Algebra.BigOperators.Group.Finset.Piecewise
import Mathlib.Algebra.GroupWithZero.Nat
import Mathlib.Order.Interval.Finset.Nat

/-!
# Every wanted block is accounted for

A batch wants the blocks of its range within the bounds.  Some it gets, as ranges that nobody has had
before; the others are reported, as overlaps with ranges that earlier batches keep.  This file shows
that nothing is left out and nothing counted twice, batch by batch and in total.

The account is kept block by block: what a batch wants and what it does not get are told by the blocks
in them, not by the cutting of ranges that the partition itself does.

The pieces of a batch are the gaps between the ranges in its way, and the blocks that it does not get
are these ranges, cut to what it wants.  Gaps do not change if the ranges between them are cut to
size, and ranges with their gaps tile the whole.

## What is here

* `BlockRange.size` — the number of blocks of a range; `BlockRange.Tiles.sum_size` — the numbers of
  blocks of ranges that tile another one add up.
* `BlockRange.Meets` — ranges with a block in common; `BlockRange.IsMeet` — the blocks in common.
* `Partition.overlaps_cut` — every range in the way of a batch is reported once.
* `Share`, `Partition.shares` — what becomes of the blocks of each batch; `Share.IsSettled` — they
  are accounted for.
* `Partition.settled_share`, `Partition.settled_sharesFrom` — a step, and all steps.
* `Partition.isSettled_shares` — the account of a partition.
-/

set_option autoImplicit false
namespace BatchInbox

namespace BlockRange

variable {rs pieces : List BlockRange} {whole : BlockRange}

/-! ## Numbers of blocks -/

/-- The number of blocks of a range.  That of all words is larger than any word. -/
def size (r : BlockRange) : Nat := r.last.toNat + 1 - r.first.toNat

open Finset in
/-- The blocks of a range, counted one by one. -/
theorem size_eq_sum (r : BlockRange) :
    r.size = ∑ n ∈ range UInt64.size, if n.toUInt64 ∈ r then 1 else 0 := by
  rw [← card_filter, size, ← Nat.card_Icc]
  refine congrArg card (Finset.ext fun n => ?_)
  have hlast := r.last.toNat_lt
  rw [mem_Icc, mem_filter, mem_range, mem_iff, UInt64.le_iff_toNat_le, UInt64.le_iff_toNat_le,
    Nat.toUInt64_eq, UInt64.toNat_ofNat', UInt64.size]
  constructor
  · intro h
    rw [Nat.mod_eq_of_lt (by omega)]
    exact ⟨by omega, h⟩
  · rintro ⟨hn, h⟩
    rwa [Nat.mod_eq_of_lt (by omega)] at h

open Finset in
theorem sum_size_eq_sum (rs : List BlockRange) :
    (rs.map size).sum =
      ∑ n ∈ range UInt64.size, rs.countP (fun r => n.toUInt64 ∈ r) := by
  induction rs with
  | nil => simp
  | cons r rs ih =>
    rw [List.map_cons, List.sum_cons, size_eq_sum, ih, ← sum_add_distrib]
    refine sum_congr rfl fun n _ => ?_
    rw [List.countP_cons, add_comm]
    simp only [decide_eq_true_eq]

theorem Tiles.countP (h : Tiles pieces whole) (b : Word) :
    pieces.countP (fun r => b ∈ r) = if b ∈ whole then 1 else 0 := by
  split
  · rename_i hb
    exact h.once b hb
  · rename_i hb
    rw [List.countP_eq_zero]
    exact fun r hr hbr => hb (mem_of_inside (h.inside r hr) (of_decide_eq_true hbr))

/-- **The sizes of the tiles** add up. -/
theorem Tiles.sum_size (h : Tiles pieces whole) : (pieces.map size).sum = whole.size := by
  rw [sum_size_eq_sum, size_eq_sum]
  exact Finset.sum_congr rfl fun n _ => h.countP n.toUInt64

/-! ## Common blocks -/

/-- Some block lies in both ranges. -/
def Meets (r s : BlockRange) : Prop := ∃ b, b ∈ r ∧ b ∈ s

/-- The range is not empty, and holds the blocks that lie in both ranges. -/
structure IsMeet (r s common : BlockRange) : Prop where
  nonempty : common.first ≤ common.last
  mem : ∀ b, b ∈ common ↔ b ∈ r ∧ b ∈ s

variable {r s common : BlockRange}

theorem isMeet_of_clip? (h : r.clip? s = some common) : IsMeet r s common :=
  ⟨(clip?_within h).1, fun _ => mem_of_clip? h⟩

theorem isSome_clip?_iff : (r.clip? s).isSome = true ↔ r.Meets s := by
  cases hclip : r.clip? s with
  | none => simpa [Meets, imp_not_comm] using fun b => mem_iff_of_clip?_none (b := b) hclip
  | some common =>
    obtain ⟨hnonempty, hmem⟩ := isMeet_of_clip? hclip
    exact iff_of_true rfl ⟨common.first, (hmem _).1 (first_mem hnonempty)⟩

instance (r s : BlockRange) : Decidable (r.Meets s) := decidable_of_iff _ isSome_clip?_iff

/-! ## Gaps between what is left of ranges -/

/-- Gaps stay as they are if the ranges between them are cut to the bounds. -/
theorem gaps_clip (h : Ascending rs) (whole : BlockRange) :
    gaps (rs.filterMap (·.clip? whole)) whole = gaps rs whole := by
  refine ((gaps_runs whole (h.clip whole)).congr fun b hb => ?_).eq (gaps_runs whole h)
  simp only [free, exists_mem_clip, hb, true_and]

/-- **Ranges that are cut to bounds, with the gaps between them**, tile the bounds. -/
theorem tiles_clip (h : Ascending rs) (whole : BlockRange) :
    Tiles (gaps rs whole ++ rs.filterMap (·.clip? whole)) whole := by
  rw [← gaps_clip h]
  refine tiles_gaps (h.clip whole) fun c hc => ?_
  obtain ⟨r, -, hclip⟩ := List.mem_filterMap.1 hc
  exact clip?_inside hclip

end BlockRange

/-! ## Shares -/

/-- What becomes of the blocks that a batch wants. -/
structure Share where
  batch : Coverage
  /-- The blocks of the batch within the bounds. -/
  wanted : BlockRange
  /-- The ranges that the batch gets. -/
  pieces : List BlockRange
  /-- The blocks that it does not get. -/
  overlaps : List Overlap
  deriving DecidableEq

/-- The blocks that a batch wants within the bounds are accounted for, by pieces and by overlaps with
ranges that are taken. -/
structure Share.IsSettled (bounds : BlockRange) (taken : List BlockRange) (s : Share) : Prop where
  /-- What is wanted are the blocks of the batch within the bounds. -/
  wanted : s.batch.range.IsMeet bounds s.wanted
  /-- A wanted block is either in one piece or dropped once, and no other block is in either. -/
  tiles : BlockRange.Tiles (s.pieces ++ s.overlaps.map (·.dropped)) s.wanted
  kept : ∀ o ∈ s.overlaps, o.kept ∈ taken
  /-- The blocks that are dropped are the wanted ones of the range that is kept. -/
  dropped : ∀ o ∈ s.overlaps, o.kept.IsMeet s.wanted o.dropped
  droppedAt : ∀ o ∈ s.overlaps, o.droppedAt = s.batch.closedAt
  isDuplicate : ∀ o ∈ s.overlaps, o.isDuplicate = true ↔ o.kept = s.wanted
  /-- Overlaps ascend, so no range is reported twice. -/
  ascending : s.overlaps.Pairwise fun o o' => o.kept.last < o'.kept.first

theorem Share.IsSettled.mono {bounds : BlockRange} {taken taken' : List BlockRange} {s : Share}
    (h : s.IsSettled bounds taken) (hsub : taken ⊆ taken') : s.IsSettled bounds taken' :=
  { h with kept := fun o ho => hsub (h.kept o ho) }

/-- Wanted blocks are got or dropped. -/
theorem Share.IsSettled.size {bounds : BlockRange} {taken : List BlockRange} {s : Share}
    (h : s.IsSettled bounds taken) :
    s.wanted.size =
      (s.pieces.map BlockRange.size).sum + (s.overlaps.map (·.dropped.size)).sum := by
  rw [← h.tiles.sum_size, List.map_append, List.sum_append, List.map_map]
  rfl

namespace Partition
open BlockRange

variable {bounds : BlockRange} {p : Partition} {c : Coverage}

/-- The share of the next batch, if it wants anything. -/
def share? (p : Partition) (bounds : BlockRange) (c : Coverage) : Option Share :=
  (c.range.clip? bounds).map fun wanted =>
    let decided := cut c.closedAt wanted wanted.first (conflicts p.ranges wanted)
    { batch := c, wanted, pieces := decided.1, overlaps := decided.2 }

/-- The shares of batches that come behind those of a partition. -/
def sharesFrom (bounds : BlockRange) : Partition → List Coverage → List Share
  | _, [] => []
  | p, c :: coverages => (p.share? bounds c).toList ++ sharesFrom bounds (claim bounds p c) coverages

/-- The shares of all batches, in the order in which they were seen. -/
def shares (coverages : List Coverage) (bounds : BlockRange) : List Share :=
  sharesFrom bounds empty (Coverage.inSeenOrder coverages)

/-! ### One batch -/

theorem claim_of_none (h : p.share? bounds c = none) : claim bounds p c = p := by
  rw [claim, Option.map_eq_none_iff.1 h]

/-- A batch adds its pieces and its overlaps. -/
theorem claim_of_some {s : Share} (h : p.share? bounds c = some s) :
    claim bounds p c = ⟨insertAll s.pieces p.ranges, p.overlaps ++ s.overlaps⟩ := by
  obtain ⟨wanted, hclip, rfl⟩ := Option.map_eq_some_iff.1 h
  rw [claim, hclip]
  rfl

/-- Every range in the way is reported.  If one ends with the last of all blocks, no range is left
behind it. -/
theorem overlaps_cut {rs : List BlockRange} (h : Ascending rs) (source : L1Position)
    (wanted : BlockRange) (next : Word) :
    (cut source wanted next rs).2 = rs.filterMap (overlap? source wanted) := by
  induction rs generalizing next with
  | nil => rfl
  | cons r rs ih =>
    obtain ⟨-, hbehind, hrest⟩ := Ascending.cons_iff.1 h
    rw [cut, List.filterMap_cons]
    split
    · rename_i hnone
      have hlast : rs = [] := List.eq_nil_iff_forall_not_mem.2 fun s hs =>
        UInt64.not_le.2 (hbehind s hs) (Word.add?_one_eq_none hnone s.first)
      rw [hlast]
      cases overlap? source wanted r <;> rfl
    · rename_i after _
      show (overlap? source wanted r).toList ++ (cut source wanted after rs).2 = _
      rw [ih hrest]
      cases overlap? source wanted r <;> rfl

/-- **What is decided about a batch**: it gets the gaps between the ranges in its way, and every such
range is reported. -/
theorem cut_conflicts {rs : List BlockRange} (h : Ascending rs) (source : L1Position)
    (wanted : BlockRange) :
    cut source wanted wanted.first (conflicts rs wanted) =
      (gaps (rs.filter wanted.overlaps) wanted,
        (rs.filter wanted.overlaps).filterMap (overlap? source wanted)) := by
  have hways : Ascending (rs.filter wanted.overlaps) := h.sublist List.filter_sublist
  rw [conflicts_eq_filter h]
  refine Prod.ext (pieces_cut hways fun r hr => ?_) (overlaps_cut hways source wanted _)
  exact overlaps_iff.1 (List.mem_filter.1 hr).2

theorem share?_eq_some {s : Share} (h : Ascending p.ranges) (hs : p.share? bounds c = some s) :
    c.range.clip? bounds = some s.wanted ∧ s.batch = c ∧
      s.pieces = gaps (p.ranges.filter s.wanted.overlaps) s.wanted ∧
      s.overlaps =
        (p.ranges.filter s.wanted.overlaps).filterMap (overlap? c.closedAt s.wanted) := by
  obtain ⟨wanted, hclip, rfl⟩ := Option.map_eq_some_iff.1 hs
  have hcut := cut_conflicts h c.closedAt wanted
  exact ⟨hclip, rfl, congrArg Prod.fst hcut, congrArg Prod.snd hcut⟩

/-- What an overlap says. -/
theorem overlap?_eq_some_iff {source : L1Position} {wanted kept : BlockRange} {o : Overlap} :
    overlap? source wanted kept = some o ↔
      kept.clip? wanted = some o.dropped ∧ o.droppedAt = source ∧ o.kept = kept ∧
        o.isDuplicate = decide (kept = wanted) := by
  rw [overlap?, Option.map_eq_some_iff]
  constructor
  · rintro ⟨dropped, hclip, rfl⟩
    exact ⟨hclip, rfl, rfl, rfl⟩
  · rintro ⟨hclip, rfl, rfl, hduplicate⟩
    exact ⟨o.dropped, hclip, by rw [← hduplicate]⟩

/-- The blocks that are dropped are those of the ranges in the way. -/
theorem map_dropped_filterMap (source : L1Position) (wanted : BlockRange) (rs : List BlockRange) :
    (rs.filterMap (overlap? source wanted)).map (·.dropped) = rs.filterMap (·.clip? wanted) := by
  rw [List.map_filterMap]
  refine List.filterMap_congr fun r _ => ?_
  rw [overlap?, Option.map_map]
  exact Option.map_id'

/-- **A step.**  The blocks that a batch wants are settled among the ranges that are taken. -/
theorem settled_share {s : Share} (h : Ascending p.ranges) (hs : p.share? bounds c = some s) :
    s.IsSettled bounds p.ranges := by
  obtain ⟨hwanted, hbatch, hpieces, hoverlaps⟩ := share?_eq_some h hs
  have hways : Ascending (p.ranges.filter s.wanted.overlaps) := h.sublist List.filter_sublist
  have hmem : ∀ o ∈ s.overlaps,
      o.kept ∈ p.ranges ∧ overlap? c.closedAt s.wanted o.kept = some o := by
    intro o ho
    rw [hoverlaps] at ho
    obtain ⟨r, hr, hro⟩ := List.mem_filterMap.1 ho
    obtain ⟨-, -, rfl, -⟩ := overlap?_eq_some_iff.1 hro
    exact ⟨(List.mem_filter.1 hr).1, hro⟩
  refine ⟨?_, ?_, fun o ho => (hmem o ho).1, fun o ho => ?_, fun o ho => ?_, fun o ho => ?_, ?_⟩
  · rw [hbatch]
    exact isMeet_of_clip? hwanted
  · rw [hoverlaps, map_dropped_filterMap, hpieces]
    exact tiles_clip hways s.wanted
  · exact isMeet_of_clip? (overlap?_eq_some_iff.1 (hmem o ho).2).1
  · rw [hbatch]
    exact (overlap?_eq_some_iff.1 (hmem o ho).2).2.1
  · rw [(overlap?_eq_some_iff.1 (hmem o ho).2).2.2.2]
    exact decide_eq_true_iff
  · rw [hoverlaps, List.pairwise_filterMap]
    refine hways.behind.imp fun {r r'} hlt o ho o' ho' => ?_
    rw [(overlap?_eq_some_iff.1 ho).2.2.1, (overlap?_eq_some_iff.1 ho').2.2.1]
    exact hlt

/-- The ranges behind a batch are those in front of it and its pieces. -/
theorem ranges_claim (h : Ascending p.ranges) (bounds : BlockRange) (c : Coverage) :
    Ascending (claim bounds p c).ranges ∧ (claim bounds p c).ranges.Perm
      (p.ranges ++ (p.share? bounds c).toList.flatMap (·.pieces)) := by
  cases hs : p.share? bounds c with
  | none =>
    rw [claim_of_none hs]
    exact ⟨h, by simp⟩
  | some s =>
    obtain ⟨-, -, hpieces, -⟩ := share?_eq_some h hs
    obtain ⟨hascending, hperm⟩ := insertAll_gaps h s.wanted
    rw [claim_of_some hs, hpieces]
    refine ⟨hascending, hperm.trans (List.perm_append_comm.trans ?_)⟩
    simp [hpieces]

/-! ### All batches -/

/-- What is reported are the overlaps of the shares. -/
theorem overlaps_foldl_claim (bounds : BlockRange) (p : Partition) (coverages : List Coverage) :
    (coverages.foldl (claim bounds) p).overlaps =
      p.overlaps ++ (sharesFrom bounds p coverages).flatMap (·.overlaps) := by
  induction coverages generalizing p with
  | nil => simp [sharesFrom]
  | cons c coverages ih =>
    rw [List.foldl_cons, ih, sharesFrom, List.flatMap_append]
    cases hs : p.share? bounds c with
    | none => simp [claim_of_none hs]
    | some s => simp [claim_of_some hs]

/-- The ranges of a partition are the pieces of the shares. -/
theorem ranges_foldl_claim (h : Ascending p.ranges) (bounds : BlockRange)
    (coverages : List Coverage) :
    Ascending (coverages.foldl (claim bounds) p).ranges ∧
      (coverages.foldl (claim bounds) p).ranges.Perm
        (p.ranges ++ (sharesFrom bounds p coverages).flatMap (·.pieces)) := by
  induction coverages generalizing p with
  | nil => exact ⟨h, by simp [sharesFrom]⟩
  | cons c coverages ih =>
    obtain ⟨hclaim, hperm⟩ := ranges_claim h bounds c
    obtain ⟨hfold, hperm'⟩ := ih hclaim
    rw [sharesFrom, List.flatMap_append, ← List.append_assoc]
    exact ⟨hfold, hperm'.trans (hperm.append_right _)⟩

/-- **All steps.**  The blocks that a batch wants are settled among the ranges that were taken in the
beginning and the pieces of the batches in front of it. -/
theorem settled_sharesFrom {s : Share} {coverages : List Coverage} {front behind : List Share}
    (h : Ascending p.ranges) (hs : sharesFrom bounds p coverages = front ++ s :: behind) :
    s.IsSettled bounds (p.ranges ++ front.flatMap (·.pieces)) := by
  induction coverages generalizing p front with
  | nil => simp [sharesFrom] at hs
  | cons c coverages ih =>
    obtain ⟨hclaim, hperm⟩ := ranges_claim h bounds c
    rw [sharesFrom] at hs
    cases hshare : p.share? bounds c with
    | none =>
      rw [hshare] at hs
      rw [claim_of_none hshare] at hs
      exact ih h hs
    | some t =>
      rw [hshare] at hs hperm
      cases front with
      | nil =>
        obtain ⟨rfl, -⟩ := List.cons.inj hs
        exact (settled_share h hshare).mono (List.subset_append_left _ _)
      | cons t' front =>
        obtain ⟨rfl, hrest⟩ := List.cons.inj hs
        refine (ih hclaim hrest).mono fun r hr => ?_
        rw [List.mem_append, hperm.mem_iff] at hr
        simpa [or_assoc] using hr

/-- Shares are those of the batches with blocks within the bounds. -/
theorem map_batch_sharesFrom (bounds : BlockRange) (p : Partition) (coverages : List Coverage) :
    (sharesFrom bounds p coverages).map (·.batch) =
      coverages.filter (·.range.Meets bounds) := by
  induction coverages generalizing p with
  | nil => rfl
  | cons c coverages ih =>
    have hmeets : (c.range.clip? bounds).isSome = true ↔ c.range.Meets bounds := isSome_clip?_iff
    rw [sharesFrom, List.map_append, ih, List.filter_cons, share?]
    cases hclip : c.range.clip? bounds with
    | none =>
      rw [hclip] at hmeets
      rw [if_neg (by simpa using hmeets)]
      rfl
    | some wanted =>
      rw [hclip] at hmeets
      rw [if_pos (by simpa using hmeets)]
      rfl

/-- The sizes of what the batches want add up to those of what they get and of what they do not. -/
theorem sum_size_shares {shares : List Share}
    (h : ∀ s ∈ shares, ∃ taken, s.IsSettled bounds taken) :
    (shares.map (·.wanted.size)).sum =
      ((shares.flatMap (·.pieces)).map BlockRange.size).sum +
        ((shares.flatMap (·.overlaps)).map (·.dropped.size)).sum := by
  induction shares with
  | nil => rfl
  | cons s shares ih =>
    obtain ⟨⟨taken, hs⟩, hrest⟩ := List.forall_mem_cons.1 h
    rw [List.map_cons, List.sum_cons, ih hrest, hs.size, List.flatMap_cons, List.flatMap_cons,
      List.map_append, List.map_append, List.sum_append, List.sum_append]
    omega

/-- A wanted block that is taken is reported, for no two ranges of a partition share a block. -/
theorem exists_dropped {ranges taken rest : List BlockRange} {s : Share} (h : Ascending ranges)
    (hranges : ranges.Perm (taken ++ (s.pieces ++ rest))) (hs : s.IsSettled bounds taken)
    {r : BlockRange} (hr : r ∈ taken) {b : Word} (hb : b ∈ s.wanted) (hbr : b ∈ r) :
    ∃ o ∈ s.overlaps, b ∈ o.dropped := by
  have hone : (s.pieces ++ s.overlaps.map (·.dropped)).countP (fun r => b ∈ r) = 1 :=
    hs.tiles.once b hb
  obtain ⟨piece, hpiece, hbpiece⟩ :=
    List.countP_pos_iff.1 (Nat.lt_of_lt_of_eq Nat.one_pos hone.symm)
  rcases List.mem_append.1 hpiece with hpiece | hdropped
  · have htaken : 0 < taken.countP (fun r => b ∈ r) :=
      List.countP_pos_iff.2 ⟨r, hr, decide_eq_true hbr⟩
    have hgot : 0 < s.pieces.countP (fun r => b ∈ r) :=
      List.countP_pos_iff.2 ⟨piece, hpiece, hbpiece⟩
    have hcount : ranges.countP (fun r => b ∈ r) = 1 :=
      h.countP_eq_one (hranges.mem_iff.2 (List.mem_append_left _ hr)) hbr
    rw [hranges.countP_eq, List.countP_append, List.countP_append] at hcount
    omega
  · obtain ⟨o, ho, rfl⟩ := List.mem_map.1 hdropped
    exact ⟨o, ho, of_decide_eq_true hbpiece⟩

/-- **The account of a partition.**  Each batch with blocks within the bounds has one share, in the
order in which the batches were seen.  What is reported are the overlaps of the shares, and the
ranges are their pieces.  The pieces and the dropped blocks of a share tile the blocks of its batch
within the bounds, and each overlap is with a piece of an earlier batch.  Every wanted block that is
in such a piece is in an overlap.  So the wanted blocks are as many as those that are got and those
that are dropped. -/
theorem isSettled_shares (coverages : List Coverage) (bounds : BlockRange) :
    let partition := ofCoverages coverages bounds
    let shares := shares coverages bounds
    shares.map (·.batch) = (Coverage.inSeenOrder coverages).filter (·.range.Meets bounds) ∧
      partition.overlaps = shares.flatMap (·.overlaps) ∧
      partition.ranges.Perm (shares.flatMap (·.pieces)) ∧
      (∀ front s behind, shares = front ++ s :: behind →
        s.IsSettled bounds (front.flatMap (·.pieces)) ∧
          (∀ o ∈ s.overlaps, o.kept ∈ partition.ranges) ∧
          ∀ r ∈ front.flatMap (·.pieces), ∀ b ∈ s.wanted, b ∈ r →
            ∃ o ∈ s.overlaps, b ∈ o.dropped) ∧
      (shares.map (·.wanted.size)).sum =
        (partition.ranges.map BlockRange.size).sum +
          (partition.overlaps.map (·.dropped.size)).sum := by
  intro partition shares
  have hempty : Ascending empty.ranges := .nil
  have hoverlaps : partition.overlaps = shares.flatMap (·.overlaps) :=
    overlaps_foldl_claim bounds empty (Coverage.inSeenOrder coverages)
  have hascending : Ascending partition.ranges :=
    (ranges_foldl_claim hempty bounds (Coverage.inSeenOrder coverages)).1
  have hranges : partition.ranges.Perm (shares.flatMap (·.pieces)) :=
    (ranges_foldl_claim hempty bounds (Coverage.inSeenOrder coverages)).2
  have hsettled : ∀ front s behind, shares = front ++ s :: behind →
      s.IsSettled bounds (front.flatMap (·.pieces)) := fun _ _ _ hs => settled_sharesFrom hempty hs
  refine ⟨map_batch_sharesFrom bounds empty _, hoverlaps, hranges, fun front s behind heq => ?_, ?_⟩
  · have hs := hsettled front s behind heq
    have hsplit : partition.ranges.Perm
        (front.flatMap (·.pieces) ++ (s.pieces ++ behind.flatMap (·.pieces))) := by
      rw [← List.flatMap_cons, ← List.flatMap_append, ← heq]
      exact hranges
    exact ⟨hs, fun o ho => hsplit.mem_iff.2 (List.mem_append_left _ (hs.kept o ho)),
      fun r hr b hb hbr => exists_dropped hascending hsplit hs hr hb hbr⟩
  · have hall : ∀ s ∈ shares, ∃ taken, s.IsSettled bounds taken := by
      intro s hs
      obtain ⟨front, behind, heq⟩ := List.append_of_mem hs
      exact ⟨_, hsettled front s behind heq⟩
    rw [hoverlaps, (hranges.map BlockRange.size).sum_eq]
    exact sum_size_shares hall

/-- The first of the three batches loses blocks to the bounds, and each of the others to the one in
front of it. -/
theorem isSettled_shares_threeBatches :
    shares threeBatches ⟨12, 60⟩ =
        [⟨.seenIn 5 10 19, ⟨12, 19⟩, [⟨12, 19⟩], []⟩,
          ⟨.seenIn 6 15 40, ⟨15, 40⟩, [⟨20, 40⟩], [⟨⟨15, 19⟩, ⟨6, 0⟩, ⟨12, 19⟩, false⟩]⟩,
          ⟨.seenIn 7 30 50, ⟨30, 50⟩, [⟨41, 50⟩], [⟨⟨30, 40⟩, ⟨7, 0⟩, ⟨20, 40⟩, false⟩]⟩] ∧
      (∀ s ∈ shares threeBatches ⟨12, 60⟩, s.batch.range.IsMeet ⟨12, 60⟩ s.wanted ∧
        BlockRange.Tiles (s.pieces ++ s.overlaps.map (·.dropped)) s.wanted) ∧
      ((ofCoverages threeBatches ⟨12, 60⟩).ranges.map BlockRange.size).sum +
          ((ofCoverages threeBatches ⟨12, 60⟩).overlaps.map (·.dropped.size)).sum = 55 := by
  have hshares : shares threeBatches ⟨12, 60⟩ =
      [⟨.seenIn 5 10 19, ⟨12, 19⟩, [⟨12, 19⟩], []⟩,
        ⟨.seenIn 6 15 40, ⟨15, 40⟩, [⟨20, 40⟩], [⟨⟨15, 19⟩, ⟨6, 0⟩, ⟨12, 19⟩, false⟩]⟩,
        ⟨.seenIn 7 30 50, ⟨30, 50⟩, [⟨41, 50⟩], [⟨⟨30, 40⟩, ⟨7, 0⟩, ⟨20, 40⟩, false⟩]⟩] := by
    rw [shares, Coverage.inSeenOrder, List.mergeSort_of_pairwise (by decide)]
    decide
  obtain ⟨-, -, -, hsettled, hsizes⟩ := isSettled_shares threeBatches ⟨12, 60⟩
  refine ⟨hshares, fun s hs => ?_, ?_⟩
  · obtain ⟨front, behind, heq⟩ := List.append_of_mem hs
    obtain ⟨hs, -⟩ := hsettled front s behind heq
    exact ⟨hs.wanted, hs.tiles⟩
  · rw [← hsizes, hshares]
    decide

end Partition
end BatchInbox
