import BatchInbox.Proofs.Ownership

/-!
# Narrowing a request

Blocks get their owners without any regard to the bounds of a request: these only say which blocks
are looked at.  So whoever asks for fewer blocks gets the same ranges, cut to size.

A computation does not show this.  Batches are cut to the bounds before they meet, so with narrower
bounds there are other conflicts, other pieces and other overlaps.  But maximal runs that are cut to
narrower bounds are maximal runs there, and there is only one list of these.

## What is here

* `BlockRange.Runs.eq` — owners and bounds determine the list of maximal runs.
* `BlockRange.Ascending.clip`, `BlockRange.exists_mem_clip` — ascending ranges cut to bounds, and
  their blocks.
* `BlockRange.Runs.clip` — maximal runs cut to narrower bounds.
* `Partition.ranges_narrow` — a partition within narrower bounds.
-/

set_option autoImplicit false
namespace BatchInbox

namespace BlockRange

variable {ι : Type} {owner : Word → Option ι} {bounds narrow : BlockRange}
  {rs rs' : List BlockRange}

/-! ## One list of maximal runs -/

/-- **Owners and bounds determine the maximal runs**, and ascending ranges have one order. -/
theorem Runs.eq (h : Runs owner bounds rs) (h' : Runs owner bounds rs') : rs = rs' := by
  have hperm : rs.Perm rs' :=
    (List.perm_ext_iff_of_nodup h.nodup h'.nodup).2 fun r => h.mem_iff.trans h'.mem_iff.symm
  refine hperm.eq_of_pairwise (fun r s hr hs hrs hsr => ?_) h.behind h'.behind
  have hlt := UInt64.lt_of_lt_of_le hrs (h'.nonempty s hs)
  exact absurd (UInt64.lt_of_lt_of_le hsr (h.nonempty r hr)) (UInt64.lt_asymm hlt)

/-! ## Cutting to bounds -/

theorem clip?_within {r clipped : BlockRange} (h : r.clip? bounds = some clipped) :
    clipped.first ≤ clipped.last ∧ r.first ≤ clipped.first ∧ clipped.last ≤ r.last := by
  simp only [clip?] at h
  split at h
  · rename_i hle
    obtain rfl := Option.some.inj h
    exact ⟨hle, (later_le_iff.1 (UInt64.le_refl _)).1, (le_earlier_iff.1 (UInt64.le_refl _)).1⟩
  · simp at h

/-- What is left of ascending ranges ascends. -/
theorem Ascending.clip (h : Ascending rs) (bounds : BlockRange) :
    Ascending (rs.filterMap (·.clip? bounds)) where
  nonempty c hc := by
    obtain ⟨r, -, hclip⟩ := List.mem_filterMap.1 hc
    exact (clip?_within hclip).1
  behind := by
    refine List.pairwise_filterMap.2 (h.behind.imp fun {r s} hrs c hc d hd => ?_)
    have hlast := UInt64.lt_of_le_of_lt (clip?_within hc).2.2 hrs
    exact UInt64.lt_of_lt_of_le hlast (clip?_within hd).2.1

/-- What is left of ranges holds their blocks within the bounds. -/
theorem exists_mem_clip {b : Word} :
    (∃ c ∈ rs.filterMap (·.clip? bounds), b ∈ c) ↔ b ∈ bounds ∧ ∃ r ∈ rs, b ∈ r := by
  constructor
  · rintro ⟨c, hc, hb⟩
    obtain ⟨r, hr, hclip⟩ := List.mem_filterMap.1 hc
    obtain ⟨hbr, hbb⟩ := (mem_of_clip? hclip).1 hb
    exact ⟨hbb, r, hr, hbr⟩
  · rintro ⟨hbb, r, hr, hbr⟩
    cases hclip : r.clip? bounds with
    | none => exact absurd hbr (mem_iff_of_clip?_none hclip hbb)
    | some c => exact ⟨c, List.mem_filterMap.2 ⟨r, hr, hclip⟩, (mem_of_clip? hclip).2 ⟨hbr, hbb⟩⟩

/-- Ranges that touch when they are cut to bounds have touched before, in the same place. -/
theorem touch_of_clip {r s c d : BlockRange} (hc : r.clip? bounds = some c)
    (hd : s.clip? bounds = some d) (hrs : r.last < s.first)
    (htouch : c.last.toNat + 1 = d.first.toNat) : r.last = c.last ∧ s.first = d.first := by
  have hlast := UInt64.le_iff_toNat_le.1 (clip?_within hc).2.2
  have hfirst := UInt64.le_iff_toNat_le.1 (clip?_within hd).2.1
  rw [UInt64.lt_iff_toNat_lt] at hrs
  rw [← UInt64.toNat_inj, ← UInt64.toNat_inj]
  omega

/-- **Maximal runs that are cut to narrower bounds** are the maximal runs there. -/
theorem Runs.clip (h : Runs owner bounds rs)
    (hnarrow : bounds.first ≤ narrow.first ∧ narrow.last ≤ bounds.last) :
    Runs owner narrow (rs.filterMap (·.clip? narrow)) where
  toAscending := h.toAscending.clip narrow
  inside c hc := by
    obtain ⟨r, -, hclip⟩ := List.mem_filterMap.1 hc
    exact clip?_inside hclip
  owned c hc := by
    obtain ⟨r, hr, hclip⟩ := List.mem_filterMap.1 hc
    obtain ⟨o, ho⟩ := h.owned r hr
    exact ⟨o, fun b hb => ho b ((mem_of_clip? hclip).1 hb).1⟩
  covers b hb hne := exists_mem_clip.2 ⟨hb, h.covers b (mem_of_inside hnarrow hb) hne⟩
  separated c hc d hd htouch := by
    have hcd := h.toAscending.clip narrow
    have hlt : c.last < d.first := by
      rw [UInt64.lt_iff_toNat_lt]
      omega
    obtain ⟨r, hr, hclip⟩ := List.mem_filterMap.1 hc
    obtain ⟨s, hs, hclip'⟩ := List.mem_filterMap.1 hd
    rcases h.trichotomy hr hs with rfl | hrs | hsr
    -- one range leaves one piece, which does not touch itself
    · obtain rfl := Option.some.inj (hclip.symm.trans hclip')
      exact absurd (hcd.nonempty c hc) (UInt64.not_le.2 hlt)
    · obtain ⟨hlast, hfirst⟩ := touch_of_clip hclip hclip' hrs htouch
      rw [← hlast, ← hfirst]
      exact h.separated r hr s hs (by rw [hlast, hfirst, htouch])
    · have hback := UInt64.lt_of_le_of_lt (clip?_within hclip').2.2 hsr
      have hfar := UInt64.lt_of_lt_of_le hback (clip?_within hclip).2.1
      have hds := UInt64.lt_of_lt_of_le hlt (hcd.nonempty d hd)
      exact absurd (UInt64.lt_trans hds hfar) (UInt64.not_lt.2 (hcd.nonempty c hc))

end BlockRange

namespace Partition
open BlockRange

/-- **A partition within narrower bounds** has the ranges of the wider one, cut to these bounds and
without those of which nothing is left. -/
theorem ranges_narrow (coverages : List Coverage) {bounds narrow : BlockRange}
    (h : bounds.first ≤ narrow.first ∧ narrow.last ≤ bounds.last) :
    (ofCoverages coverages narrow).ranges =
      (ofCoverages coverages bounds).ranges.filterMap (·.clip? narrow) :=
  (runs_ofCoverages coverages narrow).eq ((runs_ofCoverages coverages bounds).clip h)

end Partition

/-! ### An example

Three batches, each of which wants blocks of the one in front of it. -/

/-- A batch for the blocks from `first` to `last` that was seen in an L1 block. -/
def Coverage.seenIn (block first last : Word) : Coverage :=
  ⟨⟨first, last⟩, .span, .zero 16, ⟨block, 0⟩, 0⟩

def threeBatches : List Coverage := [.seenIn 5 10 19, .seenIn 6 15 40, .seenIn 7 30 50]

theorem Partition.ofCoverages_threeBatches :
    ofCoverages threeBatches ⟨0, 60⟩ =
      ⟨[⟨10, 19⟩, ⟨20, 40⟩, ⟨41, 50⟩],
        [⟨⟨15, 19⟩, ⟨6, 0⟩, ⟨10, 19⟩, false⟩, ⟨⟨30, 40⟩, ⟨7, 0⟩, ⟨20, 40⟩, false⟩]⟩ := by
  rw [ofCoverages, List.mergeSort_of_pairwise (by decide)]
  decide

theorem Partition.ranges_narrow_threeBatches :
    ((0 : Word) ≤ 18 ∧ (45 : Word) ≤ 60) ∧
      (ofCoverages threeBatches ⟨18, 45⟩).ranges = [⟨18, 19⟩, ⟨20, 40⟩, ⟨41, 45⟩] := by
  have hinside : (0 : Word) ≤ 18 ∧ (45 : Word) ≤ 60 := by decide
  have hnarrow := @ranges_narrow threeBatches ⟨0, 60⟩ ⟨18, 45⟩ hinside
  refine ⟨hinside, hnarrow.trans ?_⟩
  rw [ofCoverages_threeBatches]
  decide

end BatchInbox
