import BatchInbox.Word

/-!
# Ranges of blocks

A range is all blocks from the first to the last one, both included.  Nothing keeps a range from
ending before it starts; such a range holds no block.
-/

set_option autoImplicit false
namespace BatchInbox

/-- All blocks from `first` to `last`. -/
structure BlockRange where
  first : Word
  last : Word
  deriving DecidableEq, Repr

namespace BlockRange

/-- Blocks of a range. -/
instance : Membership Word BlockRange := ⟨fun r b => r.first ≤ b ∧ b ≤ r.last⟩

theorem mem_iff {r : BlockRange} {b : Word} : b ∈ r ↔ r.first ≤ b ∧ b ≤ r.last := Iff.rfl

instance (r : BlockRange) (b : Word) : Decidable (b ∈ r) :=
  inferInstanceAs (Decidable (_ ∧ _))

/-- The number of blocks of a range, if it is not empty and its blocks are not all words. -/
def count? (r : BlockRange) : Option Word := do
  Word.add? (← Word.sub? r.last r.first) 1

/-- Some block lies in both of two ranges that are not empty. -/
def overlaps (r s : BlockRange) : Bool := r.first ≤ s.last && s.first ≤ r.last

/-- The later of two blocks. -/
def later (a b : Word) : Word := if a ≤ b then b else a

/-- The earlier of two blocks. -/
def earlier (a b : Word) : Word := if a ≤ b then a else b

theorem later_le_iff {a b c : Word} : later a b ≤ c ↔ a ≤ c ∧ b ≤ c := by
  unfold later
  split <;> simp only [UInt64.le_iff_toNat_le] at * <;> omega

theorem le_earlier_iff {a b c : Word} : c ≤ earlier a b ↔ c ≤ a ∧ c ≤ b := by
  unfold earlier
  split <;> simp only [UInt64.le_iff_toNat_le] at * <;> omega

/-- The blocks that lie in both ranges, if there are any. -/
def clip? (r bounds : BlockRange) : Option BlockRange :=
  let first := later r.first bounds.first
  let last := earlier r.last bounds.last
  if first ≤ last then some ⟨first, last⟩ else none

theorem mem_of_clip? {r bounds clipped : BlockRange} {b : Word}
    (h : r.clip? bounds = some clipped) : b ∈ clipped ↔ b ∈ r ∧ b ∈ bounds := by
  simp only [clip?] at h
  split at h
  · simp only [Option.some.injEq] at h
    subst h
    simp only [mem_iff, later_le_iff, le_earlier_iff]
    exact ⟨fun ⟨⟨h1, h2⟩, h3, h4⟩ => ⟨⟨h1, h3⟩, h2, h4⟩,
      fun ⟨⟨h1, h3⟩, h2, h4⟩ => ⟨⟨h1, h2⟩, h3, h4⟩⟩
  · simp at h

/-- The order by first block, then by last block. -/
instance : Ord BlockRange := ⟨fun r s => (compare r.first s.first).then (compare r.last s.last)⟩

/-- The range in brackets. -/
def text (r : BlockRange) : String := s!"[{r.first}, {r.last}]"

end BlockRange
end BatchInbox
