import BatchInbox.Partition

/-!
# Maximal runs of blocks

Suppose that some blocks have an owner.  A *run* is a range of consecutive blocks within bounds that
all have the same owner, and it is *maximal* if no longer run contains it.  The maximal runs are
what a partition of the blocks should consist of; this file says so without mentioning how one is
computed, and gives a criterion that a computation can keep step by step.

## What is here

* `BlockRange.IsRun`, `BlockRange.IsMaximalRun` — the specification.
* `BlockRange.Ascending` — ranges that are not empty, each behind the one before;
  `Ascending.countP_eq_one` says that they share no block.
* `BlockRange.Runs` — an ascending list of ranges with one owner each, which leave out no block that
  has an owner, and of which neighbours have different owners.  `Runs.mem_iff` says that these are
  the maximal runs.
* `BlockRange.gaps_runs` — the gaps between ascending ranges are the maximal runs of the blocks that
  no range covers.
* `BlockRange.Tiles` — ranges that make up a larger one; `tiles_gaps` says that gaps fill up what
  ascending ranges leave.
-/

set_option autoImplicit false
namespace BatchInbox
namespace BlockRange

variable {ι : Type} {owner owner' : Word → Option ι} {bounds : BlockRange} {rs : List BlockRange}

/-! ## Blocks of ranges -/

theorem first_mem {r : BlockRange} (h : r.first ≤ r.last) : r.first ∈ r :=
  mem_iff.2 ⟨UInt64.le_refl _, h⟩

theorem last_mem {r : BlockRange} (h : r.first ≤ r.last) : r.last ∈ r :=
  mem_iff.2 ⟨h, UInt64.le_refl _⟩

theorem mem_of_inside {r s : BlockRange} {b : Word} (h : s.first ≤ r.first ∧ r.last ≤ s.last)
    (hb : b ∈ r) : b ∈ s :=
  mem_iff.2 ⟨UInt64.le_trans h.1 hb.1, UInt64.le_trans hb.2 h.2⟩

/-- A block up to the end of a range is in none that starts behind it. -/
theorem not_mem_of_le {r s : BlockRange} {b : Word} (h : r.last < s.first) (hb : b ≤ r.last) :
    b ∉ s :=
  fun hbs => UInt64.not_lt.2 (UInt64.le_trans hbs.1 hb) h

/-! ## Runs -/

/-- A range of blocks within the bounds, all of which have the same owner. -/
structure IsRun (owner : Word → Option ι) (bounds r : BlockRange) : Prop where
  /-- There are such blocks. -/
  nonempty : r.first ≤ r.last
  /-- They lie within the bounds. -/
  inside : bounds.first ≤ r.first ∧ r.last ≤ bounds.last
  /-- They have the same owner. -/
  owned : ∃ o, ∀ b ∈ r, owner b = some o

/-- A run that is contained in no other run. -/
def IsMaximalRun (owner : Word → Option ι) (bounds r : BlockRange) : Prop :=
  IsRun owner bounds r ∧ ∀ s, IsRun owner bounds s → (∀ b ∈ r, b ∈ s) → s = r

/-! ## Ascending ranges -/

/-- Ranges that are not empty, each of them behind the one before. -/
structure Ascending (rs : List BlockRange) : Prop where
  /-- No range is empty. -/
  nonempty : ∀ r ∈ rs, r.first ≤ r.last
  /-- Every range starts behind the end of those in front of it. -/
  behind : rs.Pairwise fun r s => r.last < s.first

theorem Ascending.nil : Ascending [] := ⟨by simp, .nil⟩

theorem Ascending.cons_iff {r : BlockRange} :
    Ascending (r :: rs) ↔ r.first ≤ r.last ∧ (∀ s ∈ rs, r.last < s.first) ∧ Ascending rs := by
  constructor
  · rintro ⟨hne, hb⟩
    rw [List.pairwise_cons] at hb
    exact ⟨hne r (by simp), hb.1, fun s hs => hne s (by simp [hs]), hb.2⟩
  · rintro ⟨hr, hrs, hne, hb⟩
    refine ⟨fun s hs => ?_, List.pairwise_cons.2 ⟨hrs, hb⟩⟩
    rcases List.mem_cons.1 hs with rfl | hs
    · exact hr
    · exact hne s hs

theorem Ascending.sublist {rs' : List BlockRange} (h : Ascending rs) (hs : rs'.Sublist rs) :
    Ascending rs' :=
  ⟨fun r hr => h.nonempty r (hs.subset hr), h.behind.sublist hs⟩

theorem Ascending.nodup (h : Ascending rs) : rs.Nodup := by
  refine h.behind.imp_of_mem fun {r s} hr _ hlt heq => ?_
  rw [← heq] at hlt
  exact UInt64.not_le.2 hlt (h.nonempty r hr)

/-- Of two ranges, one is behind the other. -/
theorem Ascending.trichotomy (h : Ascending rs) {r s : BlockRange} (hr : r ∈ rs) (hs : s ∈ rs) :
    r = s ∨ r.last < s.first ∨ s.last < r.first :=
  List.Pairwise.forall_of_forall_of_flip
    (R := fun r s : BlockRange => r = s ∨ r.last < s.first ∨ s.last < r.first)
    (fun _ _ => .inl rfl) (h.behind.imp fun h => .inr (.inl h))
    (h.behind.imp fun h => .inr (.inr h)) hr hs

/-- A block of some range lies in exactly one. -/
theorem Ascending.countP_eq_one (h : Ascending rs) {r : BlockRange} (hr : r ∈ rs) {b : Word}
    (hb : b ∈ r) : rs.countP (fun s => b ∈ s) = 1 := by
  induction rs with
  | nil => simp at hr
  | cons t rs ih =>
    obtain ⟨_, ht, hrs⟩ := Ascending.cons_iff.1 h
    by_cases hbt : b ∈ t
    · have hnone : rs.countP (fun s => b ∈ s) = 0 := by
        rw [List.countP_eq_zero]
        intro s hs hbs
        exact not_mem_of_le (ht s hs) hbt.2 (of_decide_eq_true hbs)
      rw [List.countP_cons_of_pos (by simpa using hbt), hnone]
    · have hr : r ∈ rs := by
        rcases List.mem_cons.1 hr with rfl | hr
        · exact absurd hb hbt
        · exact hr
      rw [List.countP_cons_of_neg (by simpa using hbt), ih hrs hr]

/-! ## The criterion -/

/-- What a list of all maximal runs looks like from inside. -/
structure Runs (owner : Word → Option ι) (bounds : BlockRange) (rs : List BlockRange) : Prop
    extends Ascending rs where
  /-- The ranges lie within the bounds. -/
  inside : ∀ r ∈ rs, bounds.first ≤ r.first ∧ r.last ≤ bounds.last
  /-- A range has one owner. -/
  owned : ∀ r ∈ rs, ∃ o, ∀ b ∈ r, owner b = some o
  /-- No block with an owner is left out. -/
  covers : ∀ b ∈ bounds, owner b ≠ none → ∃ r ∈ rs, b ∈ r
  /-- Ranges that touch have different owners. -/
  separated : ∀ r ∈ rs, ∀ s ∈ rs, r.last.toNat + 1 = s.first.toNat → owner r.last ≠ owner s.first

/-- Only the owners of blocks within the bounds matter. -/
theorem Runs.congr (h : Runs owner bounds rs) (he : ∀ b ∈ bounds, owner' b = owner b) :
    Runs owner' bounds rs where
  toAscending := h.toAscending
  inside := h.inside
  owned r hr := by
    obtain ⟨o, ho⟩ := h.owned r hr
    refine ⟨o, fun b hb => ?_⟩
    rw [he b (mem_of_inside (h.inside r hr) hb), ho b hb]
  covers b hb hne := h.covers b hb (he b hb ▸ hne)
  separated r hr s hs ht := by
    have hrl := mem_of_inside (h.inside r hr) (last_mem (h.nonempty r hr))
    have hsf := mem_of_inside (h.inside s hs) (first_mem (h.nonempty s hs))
    rw [he _ hrl, he _ hsf]
    exact h.separated r hr s hs ht

theorem Runs.isRun (h : Runs owner bounds rs) {r : BlockRange} (hr : r ∈ rs) :
    IsRun owner bounds r :=
  ⟨h.nonempty r hr, h.inside r hr, h.owned r hr⟩

/-- A run that contains a range of the list starts with it: the block in front would be the last one
of another range, which touches this one and has the same owner. -/
theorem Runs.first_le_of_subset (h : Runs owner bounds rs) {r s : BlockRange} (hr : r ∈ rs)
    (hs : IsRun owner bounds s) (hrs : ∀ b ∈ r, b ∈ s) : r.first ≤ s.first := by
  have hrn := h.nonempty r hr
  have hrf := hrs _ (first_mem hrn)
  obtain ⟨o, ho⟩ := hs.owned
  refine UInt64.not_lt.1 fun hlt => ?_
  obtain ⟨hnat, hprev, hle⟩ := Word.sub_one_of_lt hlt
  have hps : r.first - 1 ∈ s := mem_iff.2 ⟨hle, UInt64.le_trans (UInt64.le_of_lt hprev) hrf.2⟩
  obtain ⟨t, ht, hpt⟩ :=
    h.covers (r.first - 1) (mem_of_inside hs.inside hps) (by simp [ho _ hps])
  have htl : t.last = r.first - 1 := by
    rcases h.trichotomy ht hr with rfl | htr | hrt
    · exact absurd hpt.1 (UInt64.not_le.2 hprev)
    · exact UInt64.le_antisymm (Word.sub_one_of_lt htr).2.2 hpt.2
    · have hpr : r.first - 1 ≤ r.last := UInt64.le_trans (UInt64.le_of_lt hprev) hrn
      exact absurd hpt (not_mem_of_le hrt hpr)
  refine h.separated t ht r hr (by rw [htl]; exact hnat) ?_
  rw [htl, ho _ hps, ho _ hrf]

/-- A run that contains a range of the list ends with it. -/
theorem Runs.le_last_of_subset (h : Runs owner bounds rs) {r s : BlockRange} (hr : r ∈ rs)
    (hs : IsRun owner bounds s) (hrs : ∀ b ∈ r, b ∈ s) : s.last ≤ r.last := by
  have hrn := h.nonempty r hr
  have hrl := hrs _ (last_mem hrn)
  obtain ⟨o, ho⟩ := hs.owned
  refine UInt64.not_lt.1 fun hlt => ?_
  obtain ⟨hnat, hnext, hle⟩ := Word.add_one_of_lt hlt
  have hps : r.last + 1 ∈ s := mem_iff.2 ⟨UInt64.le_trans hrl.1 (UInt64.le_of_lt hnext), hle⟩
  obtain ⟨t, ht, hpt⟩ := h.covers (r.last + 1) (mem_of_inside hs.inside hps) (by simp [ho _ hps])
  have htf : t.first = r.last + 1 := by
    rcases h.trichotomy ht hr with rfl | htr | hrt
    · exact absurd hpt.2 (UInt64.not_le.2 hnext)
    · have hrp : r.first ≤ r.last + 1 := UInt64.le_trans hrn (UInt64.le_of_lt hnext)
      exact absurd (UInt64.lt_of_le_of_lt hpt.2 htr) (UInt64.not_lt.2 hrp)
    · exact UInt64.le_antisymm hpt.1 (Word.add_one_of_lt hrt).2.2
  refine h.separated r hr t ht (by rw [htf]; exact hnat.symm) ?_
  rw [htf, ho _ hps, ho _ hrl]

/-- **The criterion is sound**: each range is a maximal run. -/
theorem Runs.isMaximalRun (h : Runs owner bounds rs) {r : BlockRange} (hr : r ∈ rs) :
    IsMaximalRun owner bounds r := by
  refine ⟨h.isRun hr, fun s hs hrs => ?_⟩
  have hrn := h.nonempty r hr
  have hf := h.first_le_of_subset hr hs hrs
  have hl := h.le_last_of_subset hr hs hrs
  have hsf := hrs _ (first_mem hrn)
  have hsl := hrs _ (last_mem hrn)
  cases r
  cases s
  rw [mk.injEq]
  exact ⟨UInt64.le_antisymm hsf.1 hf, UInt64.le_antisymm hl hsl.2⟩

/-- Two runs with a common block have one owner, and together they are a run. -/
theorem IsRun.union {r s : BlockRange} (hr : IsRun owner bounds r) (hs : IsRun owner bounds s)
    (hm : s.first ∈ r) : IsRun owner bounds ⟨r.first, later r.last s.last⟩ := by
  obtain ⟨o, ho⟩ := hr.owned
  obtain ⟨o', ho'⟩ := hs.owned
  have hoo : o' = o := by
    have := ho s.first hm
    rw [ho' s.first (first_mem hs.nonempty)] at this
    exact Option.some.inj this
  obtain ⟨hlast, -⟩ := later_le_iff.1 (UInt64.le_refl (later r.last s.last))
  refine ⟨UInt64.le_trans hr.nonempty hlast,
    ⟨hr.inside.1, later_le_iff.2 ⟨hr.inside.2, hs.inside.2⟩⟩, o, fun b hb => ?_⟩
  by_cases hbr : b ≤ r.last
  · exact ho b (mem_iff.2 ⟨hb.1, hbr⟩)
  · have hsb : s.first ≤ b := UInt64.le_trans hm.2 (UInt64.le_of_lt (UInt64.not_le.1 hbr))
    have hbl : b ≤ later r.last s.last := hb.2
    rw [later] at hbl
    rw [← hoo]
    refine ho' b (mem_iff.2 ⟨hsb, ?_⟩)
    split at hbl
    · exact hbl
    · exact absurd hbl hbr

/-- **The criterion is complete**: the ranges are exactly the maximal runs. -/
theorem Runs.mem_iff (h : Runs owner bounds rs) {r : BlockRange} :
    r ∈ rs ↔ IsMaximalRun owner bounds r := by
  refine ⟨h.isMaximalRun, fun ⟨hrun, hmax⟩ => ?_⟩
  obtain ⟨o, ho⟩ := hrun.owned
  have hin := hrun.inside
  have hne := hrun.nonempty
  obtain ⟨s, hs, hm⟩ := h.covers r.first (mem_of_inside hin (first_mem hne))
    (by simp [ho _ (first_mem hne)])
  have hu := (h.isRun hs).union hrun hm
  obtain ⟨hsl, hrl⟩ := later_le_iff.1 (UInt64.le_refl (later s.last r.last))
  have hru : (⟨s.first, later s.last r.last⟩ : BlockRange) = r :=
    hmax _ hu fun b hb => mem_of_inside ⟨hm.1, hrl⟩ hb
  have hsu : (⟨s.first, later s.last r.last⟩ : BlockRange) = s :=
    (h.isMaximalRun hs).2 _ hu fun b hb => mem_of_inside (r := s) ⟨UInt64.le_refl _, hsl⟩ hb
  rw [← hru, hsu]
  exact hs

/-! ## Gaps

The gaps between ascending ranges are the maximal runs of the blocks that no range covers, which
have one owner between them. -/

/-- The blocks that no range covers. -/
def free (rs : List BlockRange) (b : Word) : Option Unit :=
  if ∃ r ∈ rs, b ∈ r then none else some ()

theorem free_ne_none_iff {b : Word} : free rs b ≠ none ↔ ∀ r ∈ rs, b ∉ r := by
  simp [free]

theorem mem_between {first last : Word} {g : BlockRange} :
    g ∈ between first last ↔ first ≤ last ∧ g = ⟨first, last⟩ := by
  unfold between
  split
  · simp_all
  · simp only [List.not_mem_nil, false_iff]
    exact fun ⟨hle, _⟩ => by contradiction

theorem mem_before {next : Word} {r g : BlockRange} :
    g ∈ before next r ↔ next < r.first ∧ g = ⟨next, r.first - 1⟩ := by
  unfold before
  split
  · simp_all
  · simp only [List.not_mem_nil, false_iff]
    exact fun ⟨hlt, _⟩ => by contradiction

/-- The blocks between two others. -/
theorem exists_mem_between {first last b : Word} :
    (∃ g ∈ between first last, b ∈ g) ↔ first ≤ b ∧ b ≤ last := by
  simp only [mem_between]
  constructor
  · rintro ⟨g, ⟨-, rfl⟩, hb⟩
    exact hb
  · rintro ⟨hf, hl⟩
    exact ⟨⟨first, last⟩, ⟨UInt64.le_trans hf hl, rfl⟩, hf, hl⟩

/-- The blocks in front of a range. -/
theorem exists_mem_before {next b : Word} {r : BlockRange} :
    (∃ g ∈ before next r, b ∈ g) ↔ next ≤ b ∧ b < r.first := by
  simp only [mem_before]
  constructor
  · rintro ⟨g, ⟨hlt, rfl⟩, hn, hb⟩
    exact ⟨hn, UInt64.lt_of_le_of_lt hb (Word.sub_one_of_lt hlt).2.1⟩
  · rintro ⟨hn, hb⟩
    exact ⟨⟨next, r.first - 1⟩, ⟨UInt64.lt_of_le_of_lt hn hb, rfl⟩, hn,
      (Word.sub_one_of_lt hb).2.2⟩

theorem before_inside {next last : Word} {r g : BlockRange} (hg : g ∈ before next r)
    (hlast : r.first ≤ last) : next ≤ g.first ∧ g.first ≤ g.last ∧ g.last ≤ last := by
  obtain ⟨hlt, rfl⟩ := mem_before.1 hg
  obtain ⟨-, hprev, hle⟩ := Word.sub_one_of_lt hlt
  exact ⟨UInt64.le_refl _, hle, UInt64.le_trans (UInt64.le_of_lt hprev) hlast⟩

/-- A gap is not empty and lies between the ends of the search. -/
theorem gapsFrom_inside {next last : Word} {g : BlockRange} (h : Ascending rs)
    (hg : g ∈ gapsFrom next last rs) : next ≤ g.first ∧ g.first ≤ g.last ∧ g.last ≤ last := by
  induction rs generalizing next with
  | nil =>
    obtain ⟨hle, rfl⟩ := mem_between.1 hg
    exact ⟨UInt64.le_refl _, hle, UInt64.le_refl _⟩
  | cons r rs ih =>
    obtain ⟨-, -, hrs⟩ := Ascending.cons_iff.1 h
    rw [gapsFrom] at hg
    split at hg
    · exact ih hrs hg
    · rename_i hnext
      split at hg
      · obtain ⟨hle, rfl⟩ := mem_between.1 hg
        exact ⟨UInt64.le_refl _, hle, UInt64.le_refl _⟩
      · rename_i hlast
        split at hg
        · exact before_inside hg (UInt64.not_lt.1 hlast)
        · rename_i after hafter
          rcases List.mem_append.1 hg with hg | hg
          · exact before_inside hg (UInt64.not_lt.1 hlast)
          · obtain ⟨hfirst, hinside⟩ := ih hrs hg
            have hlt : next < after :=
              UInt64.lt_of_le_of_lt (UInt64.not_lt.1 hnext) (Word.add?_one_eq_some hafter).1
            exact ⟨UInt64.le_trans (UInt64.le_of_lt hlt) hfirst, hinside⟩

/-- The gaps hold exactly the blocks that no range covers. -/
theorem exists_mem_gapsFrom {next last b : Word} (h : Ascending rs) :
    (∃ g ∈ gapsFrom next last rs, b ∈ g) ↔ (next ≤ b ∧ b ≤ last) ∧ ∀ r ∈ rs, b ∉ r := by
  induction rs generalizing next with
  | nil =>
    rw [gapsFrom, exists_mem_between]
    exact (and_iff_left nofun).symm
  | cons r rs ih =>
    obtain ⟨hr, hbehind, hrs⟩ := Ascending.cons_iff.1 h
    have hfar : b ≤ r.last → ∀ s ∈ rs, b ∉ s := fun hb s hs => not_mem_of_le (hbehind s hs) hb
    have hfront : b < r.first → b ∉ r ∧ ∀ s ∈ rs, b ∉ s := fun hb =>
      ⟨fun hbr => UInt64.not_le.2 hb hbr.1, hfar (UInt64.le_trans (UInt64.le_of_lt hb) hr)⟩
    rw [List.forall_mem_cons, gapsFrom]
    split
    · rename_i hpast
      rw [ih hrs]
      refine and_congr_right fun hb => (and_iff_right fun hbr => ?_).symm
      exact UInt64.not_le.2 hpast (UInt64.le_trans hb.1 hbr.2)
    · rename_i hnext
      split
      · rename_i hlast
        rw [exists_mem_between]
        exact (and_iff_left_of_imp fun hb => hfront (UInt64.lt_of_le_of_lt hb.2 hlast)).symm
      · rename_i hlast
        have hreach : b < r.first → b ≤ last := fun hb =>
          UInt64.le_trans (UInt64.le_of_lt hb) (UInt64.not_lt.1 hlast)
        split
        · rename_i hnone
          rw [exists_mem_before]
          constructor
          · rintro ⟨hn, hb⟩
            exact ⟨⟨hn, hreach hb⟩, hfront hb⟩
          · rintro ⟨hb, hnot, -⟩
            exact ⟨hb.1, UInt64.not_le.1 fun hle => hnot ⟨hle, Word.add?_one_eq_none hnone b⟩⟩
        · rename_i after hafter
          obtain ⟨hlt, hleast⟩ := Word.add?_one_eq_some hafter
          simp only [List.mem_append, or_and_right, exists_or, exists_mem_before, ih hrs]
          constructor
          · rintro (⟨hn, hb⟩ | ⟨hb, hrest⟩)
            · exact ⟨⟨hn, hreach hb⟩, hfront hb⟩
            · have hrb : r.last < b := UInt64.lt_of_lt_of_le hlt hb.1
              have hnb : next ≤ b :=
                UInt64.le_trans (UInt64.not_lt.1 hnext) (UInt64.le_of_lt hrb)
              exact ⟨⟨hnb, hb.2⟩, fun hbr => UInt64.not_le.2 hrb hbr.2, hrest⟩
          · rintro ⟨hb, hnot, hrest⟩
            by_cases hlt' : b < r.first
            · exact .inl ⟨hb.1, hlt'⟩
            · have hrb : r.last < b :=
                UInt64.not_le.1 fun hle => hnot ⟨UInt64.not_lt.1 hlt', hle⟩
              exact .inr ⟨⟨hleast b hrb, hb.2⟩, hrest⟩

/-- Between two gaps there is a block that some range covers. -/
theorem gapsFrom_separated {next last : Word} (h : Ascending rs) :
    (gapsFrom next last rs).Pairwise fun g g' =>
      ∃ b, (g.last < b ∧ b < g'.first) ∧ ∃ r ∈ rs, b ∈ r := by
  induction rs generalizing next with
  | nil =>
    rw [gapsFrom, between]
    split <;> simp
  | cons r rs ih =>
    obtain ⟨hr, _, hrs⟩ := Ascending.cons_iff.1 h
    have hrest : ∀ next, (gapsFrom next last rs).Pairwise fun g g' =>
        ∃ b, (g.last < b ∧ b < g'.first) ∧ ∃ s ∈ r :: rs, b ∈ s := fun next =>
      (ih hrs).imp fun ⟨b, hb, s, hs, hbs⟩ => ⟨b, hb, s, List.mem_cons_of_mem r hs, hbs⟩
    rw [gapsFrom]
    split
    · exact hrest next
    · split
      · rw [between]
        split <;> simp
      · split
        · rw [before]
          split <;> simp
        · rename_i after hafter
          obtain ⟨hlt, _⟩ := Word.add?_one_eq_some hafter
          rw [List.pairwise_append]
          refine ⟨by rw [before]; split <;> simp, hrest after, fun g hg g' hg' => ?_⟩
          obtain ⟨hn, rfl⟩ := mem_before.1 hg
          have hbehind : r.last < g'.first :=
            UInt64.lt_of_lt_of_le hlt (gapsFrom_inside hrs hg').1
          exact ⟨r.first, ⟨(Word.sub_one_of_lt hn).2.1, UInt64.lt_of_le_of_lt hr hbehind⟩, r,
            List.mem_cons_self, first_mem hr⟩

theorem gapsFrom_ascending {next last : Word} (h : Ascending rs) :
    Ascending (gapsFrom next last rs) where
  nonempty _ hg := (gapsFrom_inside h hg).2.1
  behind := (gapsFrom_separated h).imp fun ⟨_, ⟨hb, hb'⟩, _⟩ => UInt64.lt_trans hb hb'

/-- Ranges with a block between any two of them do not touch. -/
theorem Ascending.not_touching (h : Ascending rs)
    (hbetween : rs.Pairwise fun r s => ∃ b, r.last < b ∧ b < s.first) {r s : BlockRange}
    (hr : r ∈ rs) (hs : s ∈ rs) : r.last.toNat + 1 ≠ s.first.toNat := by
  refine List.Pairwise.forall_of_forall_of_flip
    (R := fun r s : BlockRange => r.last.toNat + 1 ≠ s.first.toNat) (fun r hr => ?_)
    (hbetween.imp fun ⟨b, hb, hb'⟩ => ?_)
    (hbetween.imp_of_mem fun hr hs ⟨b, hb, hb'⟩ => ?_) hr hs
  · have := UInt64.le_iff_toNat_le.1 (h.nonempty r hr)
    omega
  · rw [UInt64.lt_iff_toNat_lt] at hb hb'
    omega
  · have := UInt64.le_iff_toNat_le.1 (h.nonempty _ hr)
    have := UInt64.le_iff_toNat_le.1 (h.nonempty _ hs)
    rw [UInt64.lt_iff_toNat_lt] at hb hb'
    simp only [flip]
    omega

/-- No two gaps touch. -/
theorem gapsFrom_not_touching {next last : Word} (h : Ascending rs) {g g' : BlockRange}
    (hg : g ∈ gapsFrom next last rs) (hg' : g' ∈ gapsFrom next last rs) :
    g.last.toNat + 1 ≠ g'.first.toNat :=
  (gapsFrom_ascending h).not_touching
    ((gapsFrom_separated h).imp fun ⟨b, hb, _⟩ => ⟨b, hb⟩) hg hg'

/-- **The gaps between ascending ranges** are the maximal runs of the blocks that they leave. -/
theorem gaps_runs (bounds : BlockRange) (h : Ascending rs) :
    Runs (free rs) bounds (gaps rs bounds) where
  toAscending := gapsFrom_ascending h
  inside g hg := by
    have := gapsFrom_inside h hg
    exact ⟨this.1, this.2.2⟩
  owned g hg := by
    refine ⟨(), fun b hb => ?_⟩
    have := ((exists_mem_gapsFrom h).1 ⟨g, hg, hb⟩).2
    obtain ⟨⟨⟩, h⟩ := Option.ne_none_iff_exists'.1 (free_ne_none_iff.2 this)
    exact h
  covers b hb hne := (exists_mem_gapsFrom h).2 ⟨hb, free_ne_none_iff.1 hne⟩
  separated g hg g' hg' ht := absurd ht (gapsFrom_not_touching h hg hg')

/-! ## Tilings -/

/-- The pieces are not empty and lie within the whole, and every block of it lies in exactly one. -/
structure Tiles (pieces : List BlockRange) (whole : BlockRange) : Prop where
  nonempty : ∀ r ∈ pieces, r.first ≤ r.last
  inside : ∀ r ∈ pieces, whole.first ≤ r.first ∧ r.last ≤ whole.last
  once : ∀ b ∈ whole, pieces.countP (fun r => b ∈ r) = 1

/-- **Gaps fill up what the ranges leave.** -/
theorem tiles_gaps {ranges : List BlockRange} {whole : BlockRange} (h : Ascending ranges)
    (hinside : ∀ r ∈ ranges, whole.first ≤ r.first ∧ r.last ≤ whole.last) :
    Tiles (gaps ranges whole ++ ranges) whole := by
  have hgaps := gaps_runs whole h
  refine ⟨fun r hr => ?_, fun r hr => ?_, fun b hb => ?_⟩
  · exact (List.mem_append.1 hr).elim (hgaps.nonempty r) (h.nonempty r)
  · exact (List.mem_append.1 hr).elim (hgaps.inside r) (hinside r)
  · rw [List.countP_append]
    by_cases hcovered : ∃ r ∈ ranges, b ∈ r
    · obtain ⟨r, hr, hbr⟩ := hcovered
      have hnone : (gaps ranges whole).countP (fun r => b ∈ r) = 0 := by
        rw [List.countP_eq_zero]
        intro g hg hbg
        exact ((exists_mem_gapsFrom h).1 ⟨g, hg, of_decide_eq_true hbg⟩).2 r hr hbr
      rw [hnone, h.countP_eq_one hr hbr]
    · have hnone : ranges.countP (fun r => b ∈ r) = 0 := by
        rw [List.countP_eq_zero]
        exact fun r hr hbr => hcovered ⟨r, hr, of_decide_eq_true hbr⟩
      obtain ⟨g, hg, hbg⟩ := hgaps.covers b hb
        (free_ne_none_iff.2 fun r hr hbr => hcovered ⟨r, hr, hbr⟩)
      rw [hnone, hgaps.countP_eq_one hg hbg]

end BlockRange
end BatchInbox
