import BatchInbox.Proofs.Narrowing

/-!
# What ranges leave of a request

A request is looked through once, from its first block to its last one, and so are the ranges.  They
may start in front of it, end behind it, touch each other, or end with the largest block there is.
Whatever they do, the gaps are what is left of the request, cut wherever a range lies.

That ascending gaps hold the right blocks does not say where they are cut: two of them might touch.
So it takes three conditions to tell them from all other lists of ranges.

## What is here

* `BlockRange.Complement` — these ranges are what others leave of a request.
* `BlockRange.complement_gaps`, `BlockRange.Complement.eq_gaps` — the gaps are, and nothing else is.
* `BlockRange.eq_gaps_iff` — both in one statement.
-/

set_option autoImplicit false
namespace BatchInbox
namespace BlockRange

variable {bounds : BlockRange} {rs gs : List BlockRange}

/-- The ranges `gs` ascend, and are what the ranges `rs` leave of `bounds`. -/
structure Complement (gs rs : List BlockRange) (bounds : BlockRange) : Prop
    extends Ascending gs where
  /-- They lie within the bounds. -/
  inside : ∀ g ∈ gs, bounds.first ≤ g.first ∧ g.last ≤ bounds.last
  /-- A block lies in one of them if it lies in none of the others. -/
  once_iff : ∀ b ∈ bounds, gs.countP (fun g => b ∈ g) = 1 ↔ ∀ r ∈ rs, b ∉ r
  /-- Between two of them lies a block of the others. -/
  separated : gs.Pairwise fun g g' => ∃ b, (g.last < b ∧ b < g'.first) ∧ ∃ r ∈ rs, b ∈ r

/-- Nothing is left of a request for no blocks. -/
theorem Complement.eq_nil (h : Complement gs rs bounds) (hempty : bounds.last < bounds.first) :
    gs = [] := by
  refine List.eq_nil_iff_forall_not_mem.2 fun g hg => ?_
  obtain ⟨hfirst, hlast⟩ := h.inside g hg
  have hle := UInt64.le_trans (UInt64.le_trans hfirst (h.nonempty g hg)) hlast
  exact UInt64.not_le.2 hempty hle

/-- **The gaps are what is left.** -/
theorem complement_gaps (h : Ascending rs) (bounds : BlockRange) :
    Complement (gaps rs bounds) rs bounds where
  toAscending := gapsFrom_ascending h
  inside := (gaps_runs bounds h).inside
  once_iff b hb := by
    constructor
    · intro hone
      obtain ⟨g, hg, hbg⟩ := List.countP_pos_iff.1 (Nat.lt_of_lt_of_eq Nat.one_pos hone.symm)
      exact ((exists_mem_gapsFrom h).1 ⟨g, hg, of_decide_eq_true hbg⟩).2
    · intro hnone
      obtain ⟨g, hg, hbg⟩ := (exists_mem_gapsFrom h).2 ⟨hb, hnone⟩
      exact (gapsFrom_ascending h).countP_eq_one hg hbg
  separated := gapsFrom_separated h

/-- What is left are the maximal runs of the blocks that no range covers. -/
theorem Complement.runs (h : Complement gs rs bounds) : Runs (free rs) bounds gs where
  toAscending := h.toAscending
  inside := h.inside
  owned g hg := by
    refine ⟨(), fun b hb => ?_⟩
    have hnone := (h.once_iff b (mem_of_inside (h.inside g hg) hb)).1 (h.countP_eq_one hg hb)
    obtain ⟨⟨⟩, hfree⟩ := Option.ne_none_iff_exists'.1 (free_ne_none_iff.2 hnone)
    exact hfree
  covers b hb hfree := by
    have hone := (h.once_iff b hb).2 (free_ne_none_iff.1 hfree)
    obtain ⟨g, hg, hbg⟩ := List.countP_pos_iff.1 (Nat.lt_of_lt_of_eq Nat.one_pos hone.symm)
    exact ⟨g, hg, of_decide_eq_true hbg⟩
  separated g hg g' hg' htouch :=
    absurd htouch (h.not_touching (h.separated.imp fun ⟨b, hb, _⟩ => ⟨b, hb⟩) hg hg')

/-- **Nothing but the gaps is what is left.** -/
theorem Complement.eq_gaps (h : Complement gs rs bounds) (hrs : Ascending rs) :
    gs = gaps rs bounds :=
  h.runs.eq (gaps_runs bounds hrs)

/-- **Gaps are an exact complement.**  Of all lists of ranges, the gaps between ascending ranges are
the one that ascends without empty ranges within the request, holds each of its blocks once that no
range covers, and no other ones, and is cut only where a covered block lies.  A request that ends
before it starts has none. -/
theorem eq_gaps_iff (h : Ascending rs) (bounds : BlockRange) :
    (∀ gs, gs = gaps rs bounds ↔ Complement gs rs bounds) ∧
      (bounds.last < bounds.first → gaps rs bounds = []) := by
  refine ⟨fun gs => ⟨?_, fun hgs => hgs.eq_gaps h⟩, (complement_gaps h bounds).eq_nil⟩
  rintro rfl
  exact complement_gaps h bounds

/-- The first of these ranges straddles the start of a request from 10, the next two touch, and the
last one ends with the largest block. -/
def fourRanges : List BlockRange := [⟨7, 12⟩, ⟨15, 19⟩, ⟨20, 24⟩, ⟨30, Word.max⟩]

theorem eq_gaps_iff_fourRanges :
    Ascending fourRanges ∧ Complement [⟨13, 14⟩, ⟨25, 29⟩] fourRanges ⟨10, Word.max⟩ ∧
      gaps fourRanges ⟨14, 13⟩ = [] := by
  have hranges : Ascending fourRanges := ⟨by decide, by decide⟩
  refine ⟨hranges, ((eq_gaps_iff hranges ⟨10, Word.max⟩).1 _).1 (by decide), ?_⟩
  exact (eq_gaps_iff hranges ⟨14, 13⟩).2 (by decide)

end BlockRange
end BatchInbox
