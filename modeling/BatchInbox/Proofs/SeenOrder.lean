import BatchInbox.Proofs.ChannelTable
import BatchInbox.Proofs.Shares

/-!
# What is seen later changes nothing

Batches are sorted by the order in which they were seen, and then each is fitted in between those in
front of it.  So batches that are seen behind all others leave what is there as it is: they add ranges
and overlaps.  And batches that the order tells apart come out the same however they are listed.

Sorting is stable, which is all that is needed for the first part: a batch that is seen no earlier than
any of the others may as well be one that the order does not tell apart from some of them.

## What is here

* `mergeSort_cons_eq`, `mergeSort_append` — where sorting puts a first element, and elements that
  belong behind all others.
* `Coverage.seenOrder_eq_lt_iff` — the order, spelled out; `Coverage.owner?_eq_some` — the owner of a
  block comes first in it.
* `Coverage.inSeenOrder_append`, `Coverage.inSeenOrder_eq_of_perm` — sorting batches.
* `Partition.ofCoverages_stable` — what later batches leave, and that listing does not matter.
-/

set_option autoImplicit false
namespace BatchInbox

/-! ## Stable sorting -/

section
variable {α : Type} {le : α → α → Bool}
  (trans : ∀ a b c, le a b = true → le b c = true → le a c = true)
  (total : ∀ a b, (le a b || le b a) = true)
include trans total

/-- A first element goes in front of those that do not belong in front of it. -/
theorem mergeSort_cons_eq (a : α) (l : List α) :
    (a :: l).mergeSort le =
      (l.mergeSort le).filter (fun b => !le a b) ++ a :: (l.mergeSort le).filter (le a) := by
  obtain ⟨front, behind, hsort, hsort', hfront⟩ := List.mergeSort_cons trans total a l
  have hbehind : ∀ b ∈ behind, le a b = true := by
    have hsorted := List.pairwise_mergeSort trans total (a :: l)
    rw [hsort, List.pairwise_append, List.pairwise_cons] at hsorted
    exact hsorted.2.1.1
  have hnot : ∀ b ∈ front, ¬ le a b = true := fun b hb => by simpa using hfront b hb
  have hnot' : ∀ b ∈ behind, ¬ (!le a b) = true := fun b hb => by simp [hbehind b hb]
  rw [hsort, hsort', List.filter_append, List.filter_append, List.filter_eq_self.2 hfront,
    List.filter_eq_nil_iff.2 hnot, List.filter_eq_self.2 hbehind, List.filter_eq_nil_iff.2 hnot',
    List.append_nil, List.nil_append]

/-- **Elements that belong behind all others** are sorted by themselves. -/
theorem mergeSort_append {l l' : List α} (h : ∀ a ∈ l, ∀ b ∈ l', le a b = true) :
    (l ++ l').mergeSort le = l.mergeSort le ++ l'.mergeSort le := by
  induction l with
  | nil => simp
  | cons a l ih =>
    obtain ⟨ha, hl⟩ := List.forall_mem_cons.1 h
    have hself : (l'.mergeSort le).filter (le a) = l'.mergeSort le :=
      List.filter_eq_self.2 fun b hb => ha b (List.mem_mergeSort.1 hb)
    have hnil : (l'.mergeSort le).filter (fun b => !le a b) = [] :=
      List.filter_eq_nil_iff.2 fun b hb => by simp [ha b (List.mem_mergeSort.1 hb)]
    rw [List.cons_append, mergeSort_cons_eq trans total, mergeSort_cons_eq trans total, ih hl,
      List.filter_append, List.filter_append, hself, hnil]
    simp

end

/-! ## The order in which batches are seen -/

instance : Std.TransOrd L1Position :=
  inferInstanceAs <| Std.TransCmp <|
    compareLex (compareOn L1Position.block) (compareOn L1Position.txIndex)

namespace Coverage

instance : Std.TransCmp seenOrder :=
  inferInstanceAs <| Std.TransCmp <|
    compareLex (compareLex (compareOn closedAt) (compareOn channel)) (compareOn index)

theorem seenOrder_trans (a b c : Coverage) (hab : (a.seenOrder b).isLE = true)
    (hbc : (b.seenOrder c).isLE = true) : (a.seenOrder c).isLE = true :=
  Std.TransCmp.isLE_trans hab hbc

theorem seenOrder_total (a b : Coverage) :
    ((a.seenOrder b).isLE || (b.seenOrder a).isLE) = true := by
  have hswap : b.seenOrder a = (a.seenOrder b).swap := Std.OrientedCmp.eq_swap
  rw [hswap]
  cases a.seenOrder b <;> rfl

/-- **A batch is seen before another one** if its channel closed in an earlier block, or in the same
block with an earlier transaction, or with the same transaction and has the smaller id, byte by byte;
or if both are of one channel, where it comes first. -/
theorem seenOrder_eq_lt_iff {a b : Coverage} :
    a.seenOrder b = .lt ↔
      a.closedAt.block < b.closedAt.block ∨ a.closedAt.block = b.closedAt.block ∧
        (a.closedAt.txIndex < b.closedAt.txIndex ∨ a.closedAt.txIndex = b.closedAt.txIndex ∧
          (compare a.channel.toList b.channel.toList = .lt ∨ a.channel = b.channel ∧
            a.index < b.index)) := by
  have hposition : compare a.closedAt b.closedAt =
      (compare a.closedAt.block b.closedAt.block).then
        (compare a.closedAt.txIndex b.closedAt.txIndex) := rfl
  have hchannel : compare a.channel b.channel = compare a.channel.toList b.channel.toList := rfl
  simp only [seenOrder, hposition, hchannel, Ordering.then_eq_lt, Ordering.then_eq_eq,
    Std.compare_eq_lt, Std.compare_eq_iff_eq, BytesN.ext_iff, and_or_left, or_assoc, and_assoc]

variable {earlier later coverages coverages' : List Coverage}

/-- **The owner of a block** is a batch that covers it, and no other one was seen before. -/
theorem owner?_eq_some {c : Coverage} {b : Word} (h : owner? coverages b = some c) :
    c ∈ coverages ∧ b ∈ c.range ∧
      ∀ c' ∈ coverages, b ∈ c'.range → c'.seenOrder c ≠ .lt := by
  obtain ⟨hb, front, behind, hsorted, hfront⟩ := List.find?_eq_some_iff_append.1 h
  have hmem : ∀ c', c' ∈ coverages ↔ c' ∈ front ++ c :: behind := fun c' => by
    rw [← hsorted, inSeenOrder, List.mem_mergeSort]
  have hascending : (front ++ c :: behind).Pairwise fun a b => (a.seenOrder b).isLE = true :=
    hsorted ▸ List.pairwise_mergeSort seenOrder_trans seenOrder_total coverages
  refine ⟨(hmem c).2 (by simp), of_decide_eq_true hb, fun c' hc' hb' hlt => ?_⟩
  rcases List.mem_append.1 ((hmem c').1 hc') with hc' | hc'
  · exact absurd (hfront c' hc') (by simp [hb'])
  · have hle : (c.seenOrder c').isLE = true := by
      rcases List.mem_cons.1 hc' with rfl | hc'
      · exact Std.ReflCmp.isLE_rfl
      · exact (List.pairwise_cons.1 (List.pairwise_append.1 hascending).2.1).1 c' hc'
    have hswap : c.seenOrder c' = (c'.seenOrder c).swap := Std.OrientedCmp.eq_swap
    rw [hswap, hlt] at hle
    cases hle

/-- Batches that are seen behind all others come behind them. -/
theorem inSeenOrder_append (h : ∀ a ∈ earlier, ∀ b ∈ later, (a.seenOrder b).isLE = true) :
    inSeenOrder (earlier ++ later) = inSeenOrder earlier ++ inSeenOrder later :=
  mergeSort_append seenOrder_trans seenOrder_total h

/-- Batches that the order tells apart have one place each. -/
theorem inSeenOrder_eq_of_perm (h : coverages.Perm coverages')
    (hdistinct : coverages.Pairwise fun a b => a.seenOrder b ≠ .eq) :
    inSeenOrder coverages = inSeenOrder coverages' := by
  have hsorted := List.pairwise_mergeSort seenOrder_trans seenOrder_total
  have hperm : (inSeenOrder coverages).Perm (inSeenOrder coverages') :=
    ((List.mergeSort_perm _ _).trans h).trans (List.mergeSort_perm _ _).symm
  refine hperm.eq_of_pairwise (fun a b ha hb hab hba => ?_) (hsorted _) (hsorted _)
  refine List.Pairwise.forall_of_forall_of_flip
    (R := fun a b : Coverage => a.seenOrder b = .eq → a = b) (fun _ _ _ => rfl)
    (hdistinct.imp fun hne heq => absurd heq hne)
    (hdistinct.imp fun hne heq => absurd (Std.OrientedCmp.eq_symm heq) hne)
    (List.mem_mergeSort.1 ha) (h.mem_iff.2 (List.mem_mergeSort.1 hb)) ?_
  exact Std.OrientedCmp.isLE_antisymm hab hba

end Coverage

namespace Partition

/-- Batches that are seen behind all others are fitted in between what these have got. -/
theorem ofCoverages_append {earlier later : List Coverage} (bounds : BlockRange)
    (h : ∀ a ∈ earlier, ∀ b ∈ later, (a.seenOrder b).isLE = true) :
    ofCoverages (earlier ++ later) bounds =
      (Coverage.inSeenOrder later).foldl (claim bounds) (ofCoverages earlier bounds) := by
  show (Coverage.inSeenOrder (earlier ++ later)).foldl (claim bounds) empty = _
  rw [Coverage.inSeenOrder_append h, List.foldl_append]
  rfl

/-- **What is seen later changes nothing.**  If none of some batches is seen before any of the others,
the ranges and overlaps of the others stay, and more overlaps come behind them.  And if the order tells
batches apart, it does not matter how they are listed. -/
theorem ofCoverages_stable (bounds : BlockRange) :
    (∀ earlier later : List Coverage,
      (∀ a ∈ earlier, ∀ b ∈ later, (a.seenOrder b).isLE = true) →
        (∀ r ∈ (ofCoverages earlier bounds).ranges,
          r ∈ (ofCoverages (earlier ++ later) bounds).ranges) ∧
        (ofCoverages earlier bounds).overlaps <+:
          (ofCoverages (earlier ++ later) bounds).overlaps) ∧
    ∀ coverages coverages' : List Coverage, coverages.Perm coverages' →
      (coverages.Pairwise fun a b => a.seenOrder b ≠ .eq) →
        ofCoverages coverages bounds = ofCoverages coverages' bounds := by
  refine ⟨fun earlier later h => ?_, fun coverages coverages' h hdistinct => ?_⟩
  · have hascending := (runs_ofCoverages earlier bounds).toAscending
    have hranges := (ranges_foldl_claim hascending bounds (Coverage.inSeenOrder later)).2
    rw [ofCoverages_append bounds h, overlaps_foldl_claim]
    exact ⟨fun r hr => hranges.mem_iff.2 (List.mem_append_left _ hr), List.prefix_append _ _⟩
  · have horder := Coverage.inSeenOrder_eq_of_perm h hdistinct
    exact congrArg (fun seen => seen.foldl (claim bounds) empty) horder

/-- The third batch adds a range and an overlap to those of the others, and the three may be listed
against the order in which they were seen. -/
theorem ofCoverages_stable_threeBatches :
    ((∀ a ∈ threeBatches.take 2, ∀ b ∈ threeBatches.drop 2, (a.seenOrder b).isLE = true) ∧
      ofCoverages (threeBatches.take 2) ⟨0, 60⟩ =
        ⟨[⟨10, 19⟩, ⟨20, 40⟩], [⟨⟨15, 19⟩, ⟨6, 0⟩, ⟨10, 19⟩, false⟩]⟩ ∧
      (∀ r ∈ ([⟨10, 19⟩, ⟨20, 40⟩] : List BlockRange),
        r ∈ (ofCoverages threeBatches ⟨0, 60⟩).ranges) ∧
      [⟨⟨15, 19⟩, ⟨6, 0⟩, ⟨10, 19⟩, false⟩] <+: (ofCoverages threeBatches ⟨0, 60⟩).overlaps) ∧
    (threeBatches.Perm threeBatches.reverse ∧
      (threeBatches.Pairwise fun a b => a.seenOrder b ≠ .eq) ∧
      ofCoverages threeBatches.reverse ⟨0, 60⟩ =
        ⟨[⟨10, 19⟩, ⟨20, 40⟩, ⟨41, 50⟩],
          [⟨⟨15, 19⟩, ⟨6, 0⟩, ⟨10, 19⟩, false⟩, ⟨⟨30, 40⟩, ⟨7, 0⟩, ⟨20, 40⟩, false⟩]⟩) := by
  have hbehind : ∀ a ∈ threeBatches.take 2, ∀ b ∈ threeBatches.drop 2,
      (a.seenOrder b).isLE = true := by decide
  have hdistinct : threeBatches.Pairwise fun a b => a.seenOrder b ≠ .eq := by decide
  have hperm : threeBatches.Perm threeBatches.reverse := threeBatches.reverse_perm.symm
  have hearlier : ofCoverages (threeBatches.take 2) ⟨0, 60⟩ =
      ⟨[⟨10, 19⟩, ⟨20, 40⟩], [⟨⟨15, 19⟩, ⟨6, 0⟩, ⟨10, 19⟩, false⟩]⟩ := by
    rw [ofCoverages, List.mergeSort_of_pairwise (by decide)]
    decide
  obtain ⟨hstays, hsame⟩ := ofCoverages_stable ⟨0, 60⟩
  obtain ⟨hranges, hoverlaps⟩ := hstays (threeBatches.take 2) (threeBatches.drop 2) hbehind
  rw [hearlier] at hranges hoverlaps
  refine ⟨⟨hbehind, hearlier, hranges, hoverlaps⟩, hperm, hdistinct, ?_⟩
  rw [← hsame threeBatches threeBatches.reverse hperm hdistinct, ofCoverages_threeBatches]

end Partition
end BatchInbox
