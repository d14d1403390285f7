import BatchInbox.Proofs.Runs

/-!
# Blocks belong to the batch that was seen first

Several batches may cover the same block.  Its *owner* is the first of them in the order in which
they were seen.  `Partition.ofCoverages` never looks at a block: it takes the batches in that order,
cuts each around the ranges that are taken, and files the pieces.  This file shows that what comes
out are the maximal runs of blocks with the same owner.

The invariant of the fold is `BlockRange.Runs` for the owners among the batches so far.  A step only
gives owners to blocks that have none, so the old runs stay maximal, and the pieces of the new batch
are the gaps between them.

## What is here

* `Coverage.owner?` — the specification.
* `BlockRange.conflicts_eq_filter` — the way back over ascending ranges meets all that overlap.
* `Partition.pieces_cut` — the pieces of a batch are the gaps between the ranges in its way.
* `BlockRange.Ascending.insertAll`, `Partition.insertAll_gaps` — filing pieces between ranges that
  they do not meet.
* `Partition.runs_take`, `Partition.runs_foldl_claim` — a step, and all steps.
* `Partition.isMaximalRun_ofCoverages` — what a partition consists of.
-/

set_option autoImplicit false
namespace BatchInbox

namespace BlockRange

variable {rs : List BlockRange}

/-! ## Ranges in the way -/

/-- If all elements behind one that fails a test fail it too, the elements up to the first failure
are those that pass. -/
theorem takeWhile_eq_filter {α : Type} {p : α → Bool} {l : List α}
    (h : l.Pairwise fun a b => p b = true → p a = true) : l.takeWhile p = l.filter p := by
  induction l with
  | nil => rfl
  | cons a l ih =>
    obtain ⟨ha, hl⟩ := List.pairwise_cons.1 h
    by_cases hp : p a = true
    · rw [List.takeWhile_cons_of_pos hp, List.filter_cons_of_pos hp, ih hl]
    · rw [List.takeWhile_cons_of_neg hp, List.filter_cons_of_neg hp]
      refine (List.filter_eq_nil_iff.2 fun b hb hpb => hp (ha b hb hpb)).symm

theorem overlaps_iff {r s : BlockRange} :
    r.overlaps s = true ↔ r.first ≤ s.last ∧ s.first ≤ r.last := by
  simp [overlaps]

/-- The way back over ascending ranges meets all that overlap: one that ends before `wanted` has
only ranges in front of it that end even earlier. -/
theorem conflicts_eq_filter (h : Ascending rs) (wanted : BlockRange) :
    conflicts rs wanted = rs.filter wanted.overlaps := by
  have hback : (rs.filter (·.first ≤ wanted.last)).reverse.Pairwise fun r s =>
      decide (wanted.first ≤ s.last) = true → decide (wanted.first ≤ r.last) = true := by
    rw [List.pairwise_reverse]
    refine (h.behind.imp_of_mem fun _ hs hrs hle => ?_).filter _
    rw [decide_eq_true_eq] at hle ⊢
    exact UInt64.le_trans hle (UInt64.le_of_lt (UInt64.lt_of_lt_of_le hrs (h.nonempty _ hs)))
  rw [conflicts, takeWhile_eq_filter hback, List.filter_reverse, List.reverse_reverse,
    List.filter_filter]
  refine List.filter_congr fun r _ => ?_
  rw [overlaps]

/-! ## Filing pieces -/

theorem first_ne_of_apart {r s : BlockRange} (hr : r.first ≤ r.last) (hs : s.first ≤ s.last)
    (hapart : r.last < s.first ∨ s.last < r.first) : r.first ≠ s.first := by
  rcases hapart with hlt | hlt
  · exact UInt64.ne_of_lt (UInt64.lt_of_le_of_lt hr hlt)
  · exact (UInt64.ne_of_lt (UInt64.lt_of_le_of_lt hs hlt)).symm

/-- Of two ranges without a common block, one is behind the other. -/
theorem apart_of_disjoint {r s : BlockRange} (hr : r.first ≤ r.last) (hs : s.first ≤ s.last)
    (h : ∀ b ∈ r, b ∉ s) : r.last < s.first ∨ s.last < r.first := by
  by_cases hle : s.first ≤ r.first
  · exact .inr (UInt64.not_le.1 fun hin => h r.first (first_mem hr) ⟨hle, hin⟩)
  · have hlt := UInt64.le_of_lt (UInt64.not_le.1 hle)
    exact .inl (UInt64.not_le.1 fun hin => h s.first ⟨hlt, hin⟩ (first_mem hs))

/-- A range is filed beside the others, unless one of them starts with the same block. -/
theorem perm_insert {r : BlockRange} (hne : ∀ t ∈ rs, r.first ≠ t.first) :
    (insert r rs).Perm (r :: rs) := by
  induction rs with
  | nil => exact .refl _
  | cons t rs ih =>
    rw [insert]
    split
    · exact .refl _
    · rw [if_neg (hne t (by simp))]
      exact ((ih fun u hu => hne u (by simp [hu])).cons t).trans (.swap r t rs)

theorem Ascending.insert {r : BlockRange} (h : Ascending rs) (hr : r.first ≤ r.last)
    (hapart : ∀ s ∈ rs, r.last < s.first ∨ s.last < r.first) : Ascending (insert r rs) := by
  have hne : ∀ t ∈ rs, r.first ≠ t.first := fun t ht =>
    first_ne_of_apart hr (h.nonempty t ht) (hapart t ht)
  induction rs with
  | nil => exact Ascending.cons_iff.2 ⟨hr, by simp, .nil⟩
  | cons t rs ih =>
    obtain ⟨ht, hbehind, hrs⟩ := Ascending.cons_iff.1 h
    have hrt := hapart t (by simp)
    rw [BlockRange.insert]
    split
    · rename_i hfirst
      have hlast : r.last < t.first := hrt.resolve_right fun hlt =>
        UInt64.not_lt.2 (UInt64.le_trans (UInt64.le_of_lt hfirst) ht) hlt
      refine Ascending.cons_iff.2 ⟨hr, fun s hs => ?_, h⟩
      rcases List.mem_cons.1 hs with rfl | hs
      · exact hlast
      · exact UInt64.lt_trans hlast (UInt64.lt_of_le_of_lt ht (hbehind s hs))
    · rename_i hfirst
      rw [if_neg (hne t (by simp))]
      refine Ascending.cons_iff.2 ⟨ht, fun s hs => ?_,
        ih hrs (fun s hs => hapart s (by simp [hs])) fun s hs => hne s (by simp [hs])⟩
      rw [(perm_insert fun u hu => hne u (by simp [hu])).mem_iff, List.mem_cons] at hs
      rcases hs with rfl | hs
      · exact hrt.resolve_left fun hlt => hfirst (UInt64.lt_of_le_of_lt hr hlt)
      · exact hbehind s hs

/-- Pieces that meet no range end up between the ranges, and nothing is lost. -/
theorem Ascending.insertAll {pieces : List BlockRange} (h : Ascending rs) (hp : Ascending pieces)
    (hapart : ∀ p ∈ pieces, ∀ s ∈ rs, p.last < s.first ∨ s.last < p.first) :
    Ascending (insertAll pieces rs) ∧ (insertAll pieces rs).Perm (pieces ++ rs) := by
  induction pieces generalizing rs with
  | nil => exact ⟨h, .refl _⟩
  | cons p pieces ih =>
    obtain ⟨hpn, hbehind, hps⟩ := Ascending.cons_iff.1 hp
    have hp' := hapart p (by simp)
    have hperm : (BlockRange.insert p rs).Perm (p :: rs) :=
      perm_insert fun t ht => first_ne_of_apart hpn (h.nonempty t ht) (hp' t ht)
    have hrest := ih (h.insert hpn hp') hps (by
      intro q hq s hs
      rcases List.mem_cons.1 (hperm.mem_iff.1 hs) with rfl | hs
      · exact .inr (hbehind q hq)
      · exact hapart q (by simp [hq]) s hs)
    exact ⟨hrest.1, (hrest.2.trans (hperm.append_left pieces)).trans List.perm_middle⟩

end BlockRange

namespace Partition
open BlockRange

variable {rs : List BlockRange}

/-! ## One batch -/

/-- The pieces of a batch are the gaps between the ranges in its way. -/
theorem pieces_cut {source : L1Position} {wanted : BlockRange} {next : Word} (h : Ascending rs)
    (hrs : ∀ r ∈ rs, next ≤ r.last ∧ r.first ≤ wanted.last) :
    (cut source wanted next rs).1 = gapsFrom next wanted.last rs := by
  induction rs generalizing next with
  | nil => rfl
  | cons r rs ih =>
    obtain ⟨_, hbehind, hrest⟩ := Ascending.cons_iff.1 h
    have hr := hrs r (by simp)
    rw [cut, gapsFrom, if_neg (UInt64.not_lt.2 hr.1), if_neg (UInt64.not_lt.2 hr.2)]
    split
    · rfl
    · rename_i after hafter
      obtain ⟨_, hsucc⟩ := Word.add?_one_eq_some hafter
      have hnext : ∀ s ∈ rs, after ≤ s.last ∧ s.first ≤ wanted.last := fun s hs =>
        ⟨UInt64.le_trans (hsucc s.first (hbehind s hs)) (hrest.nonempty s hs),
          (hrs s (by simp [hs])).2⟩
      exact congrArg (before next r ++ ·) (ih hrest hnext)

/-- The ranges after a batch has taken what is left of its blocks. -/
theorem ranges_take {p : Partition} (h : Ascending p.ranges) (source : L1Position)
    (wanted : BlockRange) : (p.take source wanted).ranges =
      insertAll (gaps (p.ranges.filter wanted.overlaps) wanted) p.ranges := by
  rw [take, conflicts_eq_filter h]
  dsimp only
  rw [pieces_cut (h.sublist List.filter_sublist), gaps]
  intro r hr
  exact overlaps_iff.1 (List.mem_filter.1 hr).2

/-- A gap between the ranges in the way of a batch meets none of the others either. -/
theorem gaps_apart {wanted g s : BlockRange} (h : Ascending rs)
    (hg : g ∈ gaps (rs.filter wanted.overlaps) wanted) (hs : s ∈ rs) :
    g.last < s.first ∨ s.last < g.first := by
  have hgaps := gaps_runs wanted (h.sublist (List.filter_sublist (p := wanted.overlaps)))
  have hgi := hgaps.inside g hg
  by_cases hov : wanted.overlaps s = true
  · exact apart_of_disjoint (hgaps.nonempty g hg) (h.nonempty s hs) fun b hb =>
      ((exists_mem_gapsFrom (h.sublist List.filter_sublist)).1 ⟨g, hg, hb⟩).2 s
        (List.mem_filter.2 ⟨hs, hov⟩)
  · rw [overlaps_iff] at hov
    by_cases hle : wanted.first ≤ s.last
    · have hlt := UInt64.not_le.1 fun hfirst => hov ⟨hle, hfirst⟩
      exact .inl (UInt64.lt_of_le_of_lt hgi.2 hlt)
    · exact .inr (UInt64.lt_of_lt_of_le (UInt64.not_le.1 hle) hgi.1)

/-- The pieces of a batch are filed between the ranges that are taken. -/
theorem insertAll_gaps (h : Ascending rs) (wanted : BlockRange) :
    Ascending (insertAll (gaps (rs.filter wanted.overlaps) wanted) rs) ∧
      (insertAll (gaps (rs.filter wanted.overlaps) wanted) rs).Perm
        (gaps (rs.filter wanted.overlaps) wanted ++ rs) :=
  h.insertAll (gapsFrom_ascending (h.sublist List.filter_sublist)) fun _ hg _ hs =>
    gaps_apart h hg hs

section
variable {ι : Type} {owner owner' : Word → Option ι} {bounds wanted : BlockRange}

/-- The blocks of a gap have no owner. -/
theorem owner_of_mem_gap (h : Runs owner bounds rs) {g : BlockRange} {b : Word}
    (hg : g ∈ gaps (rs.filter wanted.overlaps) wanted) (hbg : b ∈ g) (hb : b ∈ bounds) :
    owner b = none := by
  obtain ⟨hbw, hnone⟩ := (exists_mem_gapsFrom (h.sublist List.filter_sublist)).1 ⟨g, hg, hbg⟩
  refine Decidable.not_not.1 fun hne => ?_
  obtain ⟨r, hr, hbr⟩ := h.covers b hb hne
  refine hnone r (List.mem_filter.2 ⟨hr, overlaps_iff.2 ?_⟩) hbr
  rw [BlockRange.mem_iff] at hbr
  exact ⟨UInt64.le_trans hbw.1 hbr.2, UInt64.le_trans hbr.1 hbw.2⟩

/-- A wanted block without an owner is in a gap. -/
theorem exists_gap_of_owner (h : Runs owner bounds rs) {b : Word} (hbw : b ∈ wanted)
    (hown : owner b = none) : ∃ g ∈ gaps (rs.filter wanted.overlaps) wanted, b ∈ g := by
  refine (exists_mem_gapsFrom (h.sublist List.filter_sublist)).2 ⟨hbw, fun r hr hbr => ?_⟩
  obtain ⟨o, ho⟩ := h.owned r (List.mem_filter.1 hr).1
  simp [ho b hbr] at hown

/-- **One batch.**  The blocks that it gets are those that it wants and that have no owner.  Their
new owner owns nothing yet, so a piece and a range that touch do not belong together. -/
theorem runs_take {p : Partition} {source : L1Position} {o : ι} (h : Runs owner bounds p.ranges)
    (hw : bounds.first ≤ wanted.first ∧ wanted.last ≤ bounds.last)
    (howner : ∀ b ∈ bounds, owner' b = (owner b).or (if b ∈ wanted then some o else none))
    (hfresh : ∀ b ∈ wanted, owner b = none → ∀ b', owner b' ≠ some o) :
    Runs owner' bounds (p.take source wanted).ranges := by
  have hways := h.toAscending.sublist (List.filter_sublist (p := wanted.overlaps))
  have hgaps := gaps_runs wanted hways
  obtain ⟨hfiled, hperm⟩ := insertAll_gaps h.toAscending wanted
  have hmem : ∀ r, r ∈ insertAll (gaps (p.ranges.filter wanted.overlaps) wanted) p.ranges ↔
      r ∈ gaps (p.ranges.filter wanted.overlaps) wanted ∨ r ∈ p.ranges := fun r =>
    hperm.mem_iff.trans List.mem_append
  rw [ranges_take h.toAscending]
  have hold : ∀ r ∈ p.ranges, ∀ b ∈ r, owner b ≠ none ∧ owner' b = owner b := by
    intro r hr b hb
    obtain ⟨o', ho'⟩ := h.owned r hr
    rw [howner b (mem_of_inside (h.inside r hr) hb), ho' b hb]
    simp
  have hnew : ∀ g ∈ gaps (p.ranges.filter wanted.overlaps) wanted, ∀ b ∈ g,
      b ∈ wanted ∧ owner b = none ∧ owner' b = some o := by
    intro g hg b hbg
    have hbw : b ∈ wanted := ((exists_mem_gapsFrom hways).1 ⟨g, hg, hbg⟩).1
    have hb : b ∈ bounds := mem_of_inside hw hbw
    have hown := owner_of_mem_gap h hg hbg hb
    exact ⟨hbw, hown, by rw [howner b hb, hown, if_pos hbw, Option.none_or]⟩
  refine ⟨hfiled, fun r hr => ?_, fun r hr => ?_, fun b hb hne => ?_, fun r hr s hs ht => ?_⟩
  · rcases (hmem r).1 hr with hr | hr
    · obtain ⟨hfirst, hlast⟩ := hgaps.inside r hr
      exact ⟨UInt64.le_trans hw.1 hfirst, UInt64.le_trans hlast hw.2⟩
    · exact h.inside r hr
  · rcases (hmem r).1 hr with hr | hr
    · exact ⟨o, fun b hb => (hnew r hr b hb).2.2⟩
    · obtain ⟨o', ho'⟩ := h.owned r hr
      exact ⟨o', fun b hb => by rw [(hold r hr b hb).2, ho' b hb]⟩
  · by_cases hown : owner b = none
    · rw [howner b hb, hown, Option.none_or] at hne
      have hbw : b ∈ wanted := Decidable.not_not.1 fun hbw => hne (if_neg hbw)
      obtain ⟨g, hg, hbg⟩ := exists_gap_of_owner h hbw hown
      exact ⟨g, (hmem g).2 (.inl hg), hbg⟩
    · obtain ⟨r, hr, hbr⟩ := h.covers b hb hown
      exact ⟨r, (hmem r).2 (.inr hr), hbr⟩
  · have hrl := last_mem (hfiled.nonempty r hr)
    have hsf := first_mem (hfiled.nonempty s hs)
    rcases (hmem r).1 hr with hr | hr <;> rcases (hmem s).1 hs with hs | hs
    · exact absurd ht (gapsFrom_not_touching hways hr hs)
    · obtain ⟨hbw, hown, ho⟩ := hnew r hr _ hrl
      rw [ho, (hold s hs _ hsf).2]
      exact (hfresh _ hbw hown _).symm
    · obtain ⟨hbw, hown, ho⟩ := hnew s hs _ hsf
      rw [ho, (hold r hr _ hrl).2]
      exact hfresh _ hbw hown _
    · rw [(hold r hr _ hrl).2, (hold s hs _ hsf).2]
      exact h.separated r hr s hs ht

end

end Partition

/-! ## All batches -/

namespace BlockRange

theorem mem_iff_of_clip?_none {r bounds : BlockRange} {b : Word} (h : r.clip? bounds = none)
    (hb : b ∈ bounds) : b ∉ r := by
  intro hbr
  simp only [clip?] at h
  split at h
  · simp at h
  · rename_i hlt
    rw [mem_iff] at hb hbr
    exact hlt (UInt64.le_trans (later_le_iff.2 ⟨hbr.1, hb.1⟩) (le_earlier_iff.2 ⟨hbr.2, hb.2⟩))

theorem clip?_inside {r bounds clipped : BlockRange} (h : r.clip? bounds = some clipped) :
    bounds.first ≤ clipped.first ∧ clipped.last ≤ bounds.last := by
  simp only [clip?] at h
  split at h
  · obtain rfl := Option.some.inj h
    exact ⟨(later_le_iff.1 (UInt64.le_refl _)).2, (le_earlier_iff.1 (UInt64.le_refl _)).2⟩
  · simp at h

end BlockRange

namespace Coverage

/-- The first of the batches that covers a block. -/
def firstOf (seen : List Coverage) (b : Word) : Option Coverage :=
  seen.find? fun c => b ∈ c.range

/-- Coverages in the order in which they were seen on L1.  Those that the order does not tell apart
stay as they are. -/
def inSeenOrder (coverages : List Coverage) : List Coverage :=
  coverages.mergeSort fun a b => (a.seenOrder b).isLE

/-- **The owner of a block**: of the batches that cover it, the one that was seen first. -/
def owner? (coverages : List Coverage) (b : Word) : Option Coverage :=
  firstOf (inSeenOrder coverages) b

theorem firstOf_append (seen : List Coverage) (c : Coverage) (b : Word) :
    firstOf (seen ++ [c]) b = (firstOf seen b).or (if b ∈ c.range then some c else none) := by
  rw [firstOf, List.find?_append, firstOf]
  by_cases hb : b ∈ c.range <;> simp [hb]

theorem firstOf_ne_none_iff {seen : List Coverage} {b : Word} :
    firstOf seen b ≠ none ↔ ∃ c ∈ seen, b ∈ c.range := by
  simp [firstOf]

/-- A block has an owner if some batch covers it. -/
theorem owner?_ne_none_iff {coverages : List Coverage} {b : Word} :
    owner? coverages b ≠ none ↔ ∃ c ∈ coverages, b ∈ c.range := by
  rw [owner?, firstOf_ne_none_iff]
  simp only [inSeenOrder, List.mem_mergeSort]

end Coverage

namespace Partition
open BlockRange

variable {bounds : BlockRange} {p : Partition}

/-- **A step.**  If the ranges are the maximal runs for the batches so far, they still are after the
next one. -/
theorem runs_claim {seen : List Coverage} (h : Runs (Coverage.firstOf seen) bounds p.ranges)
    (c : Coverage) : Runs (Coverage.firstOf (seen ++ [c])) bounds (claim bounds p c).ranges := by
  rw [claim]
  split
  · rename_i hclip
    refine h.congr fun b hb => ?_
    rw [Coverage.firstOf_append, if_neg (mem_iff_of_clip?_none hclip hb), Option.or_none]
  · rename_i wanted hclip
    refine runs_take h (clip?_inside hclip) (o := c) (fun b hb => ?_) fun b hb hown b' ho => ?_
    · simp only [Coverage.firstOf_append, mem_of_clip? hclip, hb, and_true]
    -- a batch that owns a block owns all that it covers, or another does
    · have hcb : b ∈ c.range := ((mem_of_clip? hclip).1 hb).1
      exact Coverage.firstOf_ne_none_iff.2 ⟨c, List.mem_of_find?_eq_some ho, hcb⟩ hown

/-- **All steps.** -/
theorem runs_foldl_claim {seen : List Coverage} (h : Runs (Coverage.firstOf seen) bounds p.ranges)
    (rest : List Coverage) :
    Runs (Coverage.firstOf (seen ++ rest)) bounds (rest.foldl (claim bounds) p).ranges := by
  induction rest generalizing seen p with
  | nil => simpa using h
  | cons c rest ih => simpa using ih (runs_claim h c)

/-- The ranges of a partition are runs of blocks with the same owner. -/
theorem runs_ofCoverages (coverages : List Coverage) (bounds : BlockRange) :
    Runs (Coverage.owner? coverages) bounds (ofCoverages coverages bounds).ranges := by
  have hempty : Runs (Coverage.firstOf []) bounds empty.ranges :=
    ⟨.nil, by simp [empty], by simp [empty], by simp [Coverage.firstOf], by simp [empty]⟩
  exact runs_foldl_claim hempty _

/-- A block of the bounds that some batch covers lies in exactly one range. -/
theorem countP_ofCoverages {coverages : List Coverage} {b : Word} (hb : b ∈ bounds)
    (hc : ∃ c ∈ coverages, b ∈ c.range) :
    (ofCoverages coverages bounds).ranges.countP (fun r => b ∈ r) = 1 := by
  have h := runs_ofCoverages coverages bounds
  obtain ⟨r, hr, hbr⟩ := h.covers b hb (Coverage.owner?_ne_none_iff.2 hc)
  exact h.countP_eq_one hr hbr

/-- A block that no batch covers lies in no range. -/
theorem not_mem_ofCoverages {coverages : List Coverage} {b : Word}
    (hc : ∀ c ∈ coverages, b ∉ c.range) : ∀ r ∈ (ofCoverages coverages bounds).ranges, b ∉ r := by
  intro r hr hbr
  obtain ⟨o, ho⟩ := (runs_ofCoverages coverages bounds).owned r hr
  obtain ⟨c, hcm, hbc⟩ := Coverage.owner?_ne_none_iff.1 (by rw [ho b hbr]; simp)
  exact hc c hcm hbc

/-- **What a partition consists of**: the maximal runs of blocks with the same owner, in ascending
order.  So its ranges are not empty, lie within the bounds and share no block; they hold every block
of the bounds that a batch covers, and no other. -/
theorem isMaximalRun_ofCoverages (coverages : List Coverage) (bounds : BlockRange) :
    let ranges := (ofCoverages coverages bounds).ranges
    ranges.Pairwise (fun r s => r.last < s.first) ∧
      (∀ r, r ∈ ranges ↔ IsMaximalRun (Coverage.owner? coverages) bounds r) ∧
      (∀ r ∈ ranges, r.first ≤ r.last ∧ bounds.first ≤ r.first ∧ r.last ≤ bounds.last) ∧
      (∀ b ∈ bounds, (∃ c ∈ coverages, b ∈ c.range) → ranges.countP (fun r => b ∈ r) = 1) ∧
      ∀ b, (∀ c ∈ coverages, b ∉ c.range) → ∀ r ∈ ranges, b ∉ r := by
  have h := runs_ofCoverages coverages bounds
  exact ⟨h.behind, fun r => h.mem_iff, fun r hr => ⟨h.nonempty r hr, h.inside r hr⟩,
    fun b hb hc => countP_ofCoverages hb hc, fun b hc => not_mem_ofCoverages hc⟩

end Partition
end BatchInbox
