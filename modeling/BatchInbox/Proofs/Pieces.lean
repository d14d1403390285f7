import BatchInbox.Proofs.Runs
import Mathlib.Data.List.Chain

/-!
# Ranges in pieces

A range is cut by taking one piece off its front after the other, as long as one that ends with the
range has not been taken.  A piece ends `size` blocks on, or with the largest block, or with the
range, whichever comes first, and the next one starts behind it.  With ranges that reach up to the
largest block this could run past the end, or never stop.

It stops, and `BlockRange.split`, which counts the pieces first, gives the same ones.  Whoever looks
for gaps does not see that ranges have been cut.

## What is here

* `BlockRange.Cuts` — piece after piece; `BlockRange.cuts_iff` says that this comes to an end, with
  the pieces of `split`.
* `BlockRange.IsCut` — what the pieces of a range look like; `BlockRange.Cuts.isCut` says that they
  do.
* `BlockRange.gapsFrom_join` — gaps do not change if a range is cut in two.
* `BlockRange.splitAll_isCut` — all of this for a list of ranges.
-/

set_option autoImplicit false
namespace BatchInbox
namespace BlockRange

variable {r : BlockRange} {size : Word} {pieces rest : List BlockRange}

/-! ## Piece after piece -/

/-- The piece that is taken off the front of a range. -/
def firstPiece (r : BlockRange) (size : Word) : BlockRange :=
  ⟨r.first, earlier (Word.addSat r.first (size - 1)) r.last⟩

/-- These are the pieces that one gets by taking off the first one again and again, up to the one
that ends with the range. -/
inductive Cuts (size : Word) : BlockRange → List BlockRange → Prop
  | last {r : BlockRange} (h : (r.firstPiece size).last = r.last) : Cuts size r [r.firstPiece size]
  | more {r : BlockRange} {next : Word} {pieces : List BlockRange}
      (h : (r.firstPiece size).last ≠ r.last)
      (hnext : Word.add? (r.firstPiece size).last 1 = some next)
      (hrest : Cuts size ⟨next, r.last⟩ pieces) : Cuts size r (r.firstPiece size :: pieces)

/-- The first piece has `size` blocks, or ends with the range. -/
theorem toNat_last_firstPiece (hsize : 0 < size) :
    (r.firstPiece size).last.toNat + 1 = min (r.first.toNat + size.toNat) (r.last.toNat + 1) := by
  have hone := (Word.sub_one_of_lt hsize).1
  have hfits := r.last.toNat_lt
  have hsat := Word.toNat_addSat r.first (size - 1)
  simp only [UInt64.size] at hsat
  simp only [firstPiece, earlier]
  split <;> rename_i hle <;> rw [UInt64.le_iff_toNat_le, hsat] at hle <;> omega

theorem firstPiece_eq_self (h : (r.firstPiece size).last = r.last) : r.firstPiece size = r :=
  congrArg (BlockRange.mk r.first) h

/-- If the first piece does not end with the range, it is full, and there are more blocks behind
it. -/
theorem firstPiece_of_more (hsize : 0 < size) {next : Word}
    (h : (r.firstPiece size).last ≠ r.last)
    (hnext : Word.add? (r.firstPiece size).last 1 = some next) :
    next.toNat = r.first.toNat + size.toNat ∧ next.toNat ≤ r.last.toNat ∧
      (r.firstPiece size).last.toNat + 1 = next.toNat := by
  have hlast := toNat_last_firstPiece (r := r) hsize
  have hbehind : next.toNat = (r.firstPiece size).last.toNat + 1 := Word.add?_eq_some.1 hnext
  rw [Ne, ← UInt64.toNat_inj] at h
  omega

/-! ## As many pieces as there are -/

/-- A range of no more than `size` blocks is one piece. -/
theorem split_of_lt (h : r.last.toNat < r.first.toNat + size.toNat) : split r size = [r] := by
  rw [split]
  split
  · rfl
  · rename_i hnot
    rw [not_or, UInt64.not_lt] at hnot
    have hgap := UInt64.toNat_sub_of_le r.last r.first hnot.2
    have hle := UInt64.le_iff_toNat_le.1 hnot.2
    have hnone : (r.last - r.first) / size = 0 := by
      rw [← UInt64.toNat_inj, UInt64.toNat_div, hgap]
      exact Nat.div_eq_of_lt (by omega)
    simp [hnone]

/-- The pieces behind the first one are counted from where it ends. -/
theorem piece_succ (r : BlockRange) (size : Word) (index : Nat) :
    r.piece size (index + 1) = piece ⟨r.first + size, r.last⟩ size index := by
  have hnext : r.first + (index + 1).toUInt64 * size = r.first + size + index.toUInt64 * size := by
    simp only [Nat.toUInt64_eq, UInt64.ofNat_add, UInt64.ofNat_one]
    grind
  simp only [piece, hnext]

/-- The first piece of a longer range is full. -/
theorem firstPiece_of_le (hsize : 0 < size) (h : r.first.toNat + size.toNat ≤ r.last.toNat) :
    r.firstPiece size = ⟨r.first, r.first + (size - 1)⟩ := by
  have hone := (Word.sub_one_of_lt hsize).1
  have hlast := toNat_last_firstPiece (r := r) hsize
  have hfits := r.last.toNat_lt
  refine congrArg (BlockRange.mk r.first) ?_
  change (r.firstPiece size).last = _
  rw [← UInt64.toNat_inj, UInt64.toNat_add, Nat.mod_eq_of_lt (by omega)]
  omega

/-- A longer range is its first piece, and the pieces behind it. -/
theorem split_of_le (hsize : 0 < size) (h : r.first.toNat + size.toNat ≤ r.last.toNat) :
    split r size = r.firstPiece size :: split ⟨r.first + size, r.last⟩ size := by
  have hpos : 0 < size.toNat := UInt64.lt_iff_toNat_lt.1 hsize
  have hfits := r.last.toNat_lt
  have hfirst : (r.first + size).toNat = r.first.toNat + size.toNat := by
    rw [UInt64.toNat_add, Nat.mod_eq_of_lt (by omega)]
  have hle : r.first ≤ r.last := by
    rw [UInt64.le_iff_toNat_le]
    omega
  have hle' : r.first + size ≤ r.last := by
    rw [UInt64.le_iff_toNat_le]
    omega
  -- behind the first piece there is one full piece less
  have hfewer : (r.last.toNat - r.first.toNat) / size.toNat =
      (r.last.toNat - (r.first.toNat + size.toNat)) / size.toNat + 1 := by
    rw [Nat.div_eq_sub_div hpos (by omega), Nat.sub_sub]
  have hcount : ((r.last - r.first) / size).toNat =
      ((r.last - (r.first + size)) / size).toNat + 1 := by
    rw [UInt64.toNat_div, UInt64.toNat_div, UInt64.toNat_sub_of_le _ _ hle,
      UInt64.toNat_sub_of_le _ _ hle', hfirst, hfewer]
  have hfull : (r.last - r.first) / size = (r.last - (r.first + size)) / size + 1 := by
    have hfits' := ((r.last - r.first) / size).toNat_lt
    rw [← UInt64.toNat_inj, UInt64.toNat_add, UInt64.toNat_one, Nat.mod_eq_of_lt (by omega), hcount]
  have hlast : r.first + (r.last - r.first) / size * size =
      r.first + size + (r.last - (r.first + size)) / size * size := by
    rw [hfull]
    grind
  have hzero : r.piece size 0 = r.firstPiece size := by
    rw [firstPiece_of_le hsize h]
    simp [piece]
  rw [split, split, if_neg, if_neg]
  · simp only [hcount, List.range_succ_eq_map, List.map_cons, List.map_map, List.cons_append, hzero,
      Function.comp_def, Nat.succ_eq_add_one, piece_succ, hlast]
  · exact not_or.2 ⟨UInt64.pos_iff_ne_zero.1 hsize, UInt64.not_lt.2 hle'⟩
  · exact not_or.2 ⟨UInt64.pos_iff_ne_zero.1 hsize, UInt64.not_lt.2 hle⟩

/-- **Taking off pieces comes to an end**, with the pieces that are counted first. -/
theorem cuts_split (hsize : 0 < size) (r : BlockRange) : Cuts size r (r.split size) := by
  have hpos : 0 < size.toNat := UInt64.lt_iff_toNat_lt.1 hsize
  generalize hn : r.last.toNat - r.first.toNat = n
  induction n using Nat.strongRecOn generalizing r with
  | ind n ih =>
    have hlast := toNat_last_firstPiece (r := r) hsize
    have hfits := r.last.toNat_lt
    rcases Nat.lt_or_ge r.last.toNat (r.first.toNat + size.toNat) with hlt | hle
    · have hend : (r.firstPiece size).last = r.last := by
        rw [← UInt64.toNat_inj]
        omega
      have hcuts := Cuts.last hend
      rw [firstPiece_eq_self hend] at hcuts
      rwa [split_of_lt hlt]
    · have hfirst : (r.first + size).toNat = r.first.toNat + size.toNat := by
        rw [UInt64.toNat_add, Nat.mod_eq_of_lt (by omega)]
      have hmore : (r.firstPiece size).last ≠ r.last := by
        rw [Ne, ← UInt64.toNat_inj]
        omega
      have hnext : Word.add? (r.firstPiece size).last 1 = some (r.first + size) := by
        rw [Word.add?_eq_some, UInt64.toNat_one]
        omega
      rw [split_of_le hsize hle]
      exact .more hmore hnext (ih (r.last.toNat - (r.first + size).toNat) (by omega) _ rfl)

/-- There is one way to take off pieces. -/
theorem Cuts.eq {pieces' : List BlockRange} (h : Cuts size r pieces) (h' : Cuts size r pieces') :
    pieces = pieces' := by
  induction h generalizing pieces' with
  | last hend =>
    cases h' with
    | last _ => rfl
    | more hmore _ _ => exact absurd hend hmore
  | more hmore hnext _ ih =>
    cases h' with
    | last hend => exact absurd hend hmore
    | more _ hnext' hrest' =>
      obtain rfl := Option.some.inj (hnext.symm.trans hnext')
      rw [ih hrest']

/-- **The pieces that are taken off** are those that are counted. -/
theorem cuts_iff (hsize : 0 < size) : Cuts size r pieces ↔ pieces = r.split size :=
  ⟨fun h => h.eq (cuts_split hsize r), fun h => h ▸ cuts_split hsize r⟩

/-! ## What pieces look like -/

/-- These are the pieces of a range: they follow each other from its first block to its last one,
all of them but the last have `size` blocks, and that one has no more. -/
structure IsCut (r : BlockRange) (size : Word) (pieces : List BlockRange) : Prop where
  starts : pieces.head?.map first = some r.first
  ends : pieces.getLast?.map last = some r.last
  joined : pieces.IsChain fun p q => p.last.toNat + 1 = q.first.toNat
  full : ∀ p ∈ pieces.dropLast, p.last.toNat + 1 = p.first.toNat + size.toNat
  rest : ∀ p ∈ pieces.getLast?,
    p.first ≤ p.last ∧ p.last.toNat + 1 ≤ p.first.toNat + size.toNat

theorem Cuts.ne_nil (h : Cuts size r pieces) : pieces ≠ [] := by
  cases h <;> exact List.cons_ne_nil _ _

/-- **Pieces of a range** follow each other through it. -/
theorem Cuts.isCut (hsize : 0 < size) (h : Cuts size r pieces) (hr : r.first ≤ r.last) :
    IsCut r size pieces := by
  induction h with
  | @last r hend =>
    have hlast := toNat_last_firstPiece (r := r) hsize
    rw [firstPiece_eq_self hend] at hlast ⊢
    refine ⟨rfl, rfl, .singleton r, nofun, fun p hp => ?_⟩
    obtain rfl : r = p := by simpa using hp
    exact ⟨hr, by omega⟩
  | @more r next pieces hmore hnext hrest ih =>
    obtain ⟨hfirst, hle, hbehind⟩ := firstPiece_of_more hsize hmore hnext
    have hcut := ih (UInt64.le_iff_toNat_le.2 hle)
    obtain ⟨q, behind, rfl⟩ := List.exists_cons_of_ne_nil hrest.ne_nil
    have hq : q.first = next := Option.some.inj hcut.starts
    refine ⟨rfl, ?_, ?_, ?_, ?_⟩
    · rw [List.getLast?_cons_cons]
      exact hcut.ends
    · exact .cons_cons (by rw [hq]; exact hbehind) hcut.joined
    · rw [List.dropLast_cons_cons]
      exact List.forall_mem_cons.2 ⟨hbehind.trans hfirst, hcut.full⟩
    · rw [List.getLast?_cons_cons]
      exact hcut.rest

/-- A piece is not empty and lies within the range. -/
theorem Cuts.inside (hsize : 0 < size) (h : Cuts size r pieces) (hr : r.first ≤ r.last)
    {p : BlockRange} (hp : p ∈ pieces) : r.first ≤ p.first ∧ p.first ≤ p.last ∧ p.last ≤ r.last := by
  induction h with
  | last hend =>
    rw [firstPiece_eq_self hend, List.mem_singleton] at hp
    subst hp
    exact ⟨UInt64.le_refl _, hr, UInt64.le_refl _⟩
  | @more r next pieces hmore hnext hrest ih =>
    obtain ⟨hfirst, hle, hbehind⟩ := firstPiece_of_more hsize hmore hnext
    have hpos : 0 < size.toNat := UInt64.lt_iff_toNat_lt.1 hsize
    simp only [UInt64.le_iff_toNat_le] at ih hr ⊢
    rcases List.mem_cons.1 hp with rfl | hp
    · have hstart : (r.firstPiece size).first.toNat = r.first.toNat := rfl
      omega
    · have := ih hle hp
      omega

/-- Pieces ascend. -/
theorem Cuts.ascending (hsize : 0 < size) (h : Cuts size r pieces) (hr : r.first ≤ r.last) :
    Ascending pieces := by
  refine ⟨fun p hp => (h.inside hsize hr hp).2.1, ?_⟩
  induction h with
  | last _ => exact List.pairwise_singleton ..
  | @more r next pieces hmore hnext hrest ih =>
    obtain ⟨-, hle, hbehind⟩ := firstPiece_of_more hsize hmore hnext
    rw [← UInt64.le_iff_toNat_le] at hle
    refine List.pairwise_cons.2 ⟨fun q hq => ?_, ih hle⟩
    have hlt : (r.firstPiece size).last < next := by
      rw [UInt64.lt_iff_toNat_lt]
      omega
    exact UInt64.lt_of_lt_of_le hlt (hrest.inside hsize hle hq).1

/-- Pieces hold the blocks of the range. -/
theorem Cuts.exists_mem (hsize : 0 < size) (h : Cuts size r pieces) (hr : r.first ≤ r.last)
    {b : Word} : (∃ p ∈ pieces, b ∈ p) ↔ b ∈ r := by
  refine ⟨fun ⟨p, hp, hb⟩ => ?_, fun hb => ?_⟩
  · obtain ⟨hfirst, -, hlast⟩ := h.inside hsize hr hp
    exact mem_of_inside ⟨hfirst, hlast⟩ hb
  · induction h with
    | last hend =>
      rw [firstPiece_eq_self hend]
      exact ⟨_, List.mem_singleton_self _, hb⟩
    | @more r next pieces hmore hnext hrest ih =>
      obtain ⟨-, hle, -⟩ := firstPiece_of_more hsize hmore hnext
      by_cases hfront : b ≤ (r.firstPiece size).last
      · exact ⟨_, List.mem_cons_self, mem_iff.2 ⟨hb.1, hfront⟩⟩
      · have hbehind := (Word.add?_one_eq_some hnext).2 b (UInt64.not_le.1 hfront)
        obtain ⟨p, hp, hbp⟩ := ih (UInt64.le_iff_toNat_le.2 hle) (mem_iff.2 ⟨hbehind, hb.2⟩)
        exact ⟨p, List.mem_cons_of_mem _ hp, hbp⟩

/-! ## Gaps between pieces -/

/-- Behind the end of a request there are no gaps. -/
theorem gapsFrom_of_lt {next last : Word} (h : last < next) (rs : List BlockRange) :
    gapsFrom next last rs = [] := by
  induction rs generalizing next with
  | nil => exact if_neg (UInt64.not_le.2 h)
  | cons r rs ih =>
    have hbetween : between next last = [] := if_neg (UInt64.not_le.2 h)
    rw [gapsFrom]
    split
    · exact ih h
    · rename_i hnext
      split
      · exact hbetween
      · rename_i hlast
        have hbefore : before next r = [] := if_neg fun hlt => hlast (UInt64.lt_trans h hlt)
        rw [hbefore]
        split
        · rfl
        · rename_i after hafter
          have hlt := (Word.add?_one_eq_some hafter).1
          exact ih (UInt64.lt_trans h (UInt64.lt_of_le_of_lt (UInt64.not_lt.1 hnext) hlt))

/-- Gaps do not change if the ranges behind the first one are replaced by others with the same
gaps. -/
theorem gapsFrom_cons_congr {last : Word} {rs rs' : List BlockRange}
    (h : ∀ next, gapsFrom next last rs = gapsFrom next last rs') (next : Word) (r : BlockRange) :
    gapsFrom next last (r :: rs) = gapsFrom next last (r :: rs') := by
  simp only [gapsFrom, h]

/-- There is no gap in front of a range that has begun. -/
theorem before_of_le {next : Word} (h : r.first ≤ next) : before next r = [] :=
  if_neg (UInt64.not_lt.2 h)

/-- **Gaps do not change if a range is cut in two.** -/
theorem gapsFrom_join {next last a b c d : Word} (hab : a ≤ b) (hbc : Word.add? b 1 = some c)
    (hcd : c ≤ d) (rs : List BlockRange) :
    gapsFrom next last (⟨a, b⟩ :: ⟨c, d⟩ :: rs) = gapsFrom next last (⟨a, d⟩ :: rs) := by
  obtain ⟨hlt, hleast⟩ := Word.add?_one_eq_some hbc
  have hbd : b < d := UInt64.lt_of_lt_of_le hlt hcd
  by_cases hout : last < next
  · rw [gapsFrom_of_lt hout, gapsFrom_of_lt hout]
  have hnext := UInt64.not_lt.1 hout
  by_cases hpast : b < next
  -- the search has begun behind the cut
  · have hc : c ≤ next := hleast next hpast
    have ha : a ≤ next := UInt64.le_trans hab (UInt64.le_of_lt hpast)
    have hskip : gapsFrom next last (⟨a, b⟩ :: ⟨c, d⟩ :: rs) = gapsFrom next last (⟨c, d⟩ :: rs) :=
      if_pos hpast
    rw [hskip, gapsFrom, gapsFrom, if_neg (UInt64.not_lt.2 (UInt64.le_trans hc hnext)),
      if_neg (UInt64.not_lt.2 (UInt64.le_trans ha hnext)), before_of_le hc, before_of_le ha]
  · have hd : ¬ d < next := fun hdn => hpast (UInt64.lt_trans hbd hdn)
    rw [gapsFrom, if_neg hpast, gapsFrom, if_neg hd]
    by_cases hfront : last < a
    · rw [if_pos hfront, if_pos hfront]
    rw [if_neg hfront, if_neg hfront, hbc]
    have hsame : before next ⟨a, b⟩ = before next ⟨a, d⟩ := rfl
    simp only [hsame]
    by_cases hend : last < c
    -- the request ends in front of the cut
    · rw [gapsFrom_of_lt hend, List.append_nil]
      cases hafter : Word.add? d 1 with
      | none => rfl
      | some after =>
        have hbehind := UInt64.lt_of_le_of_lt hcd (Word.add?_one_eq_some hafter).1
        simp only [gapsFrom_of_lt (UInt64.lt_trans hend hbehind), List.append_nil]
    · rw [gapsFrom, if_neg (UInt64.not_lt.2 hcd), if_neg hend]
      have hbegun : before c ⟨c, d⟩ = [] := before_of_le (UInt64.le_refl c)
      cases Word.add? d 1 with
      | none => simp only [hbegun, List.append_nil]
      | some after => simp only [hbegun, List.nil_append]

/-- **Gaps do not change if a range is cut into pieces.** -/
theorem Cuts.gapsFrom_append (hsize : 0 < size) (h : Cuts size r pieces) (next last : Word)
    (rs : List BlockRange) : gapsFrom next last (pieces ++ rs) = gapsFrom next last (r :: rs) := by
  induction h generalizing next with
  | last hend =>
    rw [firstPiece_eq_self hend]
    rfl
  | @more r middle pieces hmore hnext hrest ih =>
    obtain ⟨hfirst, hle, hbehind⟩ := firstPiece_of_more hsize hmore hnext
    have hpos : 0 < size.toNat := UInt64.lt_iff_toNat_lt.1 hsize
    have hnonempty : r.first ≤ (r.firstPiece size).last := by
      rw [UInt64.le_iff_toNat_le]
      omega
    rw [List.cons_append, gapsFrom_cons_congr ih]
    exact gapsFrom_join hnonempty hnext (UInt64.le_iff_toNat_le.2 hle) rs

/-! ## All ranges -/

theorem splitAll_cons (r : BlockRange) (rs : List BlockRange) (size : Word) :
    splitAll (r :: rs) size = r.split size ++ splitAll rs size :=
  List.flatMap_cons

/-- A size of zero means no limit. -/
theorem splitAll_zero (rs : List BlockRange) : splitAll rs 0 = rs := by
  have hsplit : ∀ r : BlockRange, r.split 0 = [r] := fun r => if_pos (.inl rfl)
  rw [splitAll, funext hsplit, List.flatMap_singleton']

/-- Whoever looks for gaps does not see that ranges have been cut. -/
theorem gaps_splitAll (hsize : 0 < size) (rs : List BlockRange) (bounds : BlockRange) :
    gaps (splitAll rs size) bounds = gaps rs bounds := by
  suffices h : ∀ next, gapsFrom next bounds.last (splitAll rs size) =
      gapsFrom next bounds.last rs from h bounds.first
  induction rs with
  | nil => exact fun _ => rfl
  | cons r rs ih =>
    intro next
    rw [splitAll_cons, (cuts_split hsize r).gapsFrom_append hsize]
    exact gapsFrom_cons_congr ih next r

/-- Pieces hold the blocks of the ranges. -/
theorem exists_mem_splitAll (hsize : 0 < size) {rs : List BlockRange}
    (hrs : ∀ r ∈ rs, r.first ≤ r.last) {b : Word} :
    (∃ p ∈ splitAll rs size, b ∈ p) ↔ ∃ r ∈ rs, b ∈ r := by
  simp only [splitAll, List.mem_flatMap]
  constructor
  · rintro ⟨p, ⟨r, hr, hp⟩, hb⟩
    exact ⟨r, hr, ((cuts_split hsize r).exists_mem hsize (hrs r hr)).1 ⟨p, hp, hb⟩⟩
  · rintro ⟨r, hr, hb⟩
    obtain ⟨p, hp, hbp⟩ := ((cuts_split hsize r).exists_mem hsize (hrs r hr)).2 hb
    exact ⟨p, ⟨r, hr, hp⟩, hbp⟩

/-- Pieces of ascending ranges ascend. -/
theorem Ascending.splitAll (hsize : 0 < size) {rs : List BlockRange} (h : Ascending rs) :
    Ascending (splitAll rs size) := by
  have hcuts := cuts_split hsize
  constructor
  · intro p hp
    obtain ⟨r, hr, hp⟩ := List.mem_flatMap.1 hp
    exact ((hcuts r).inside hsize (h.nonempty r hr) hp).2.1
  · refine List.pairwise_flatMap.2 ⟨fun r hr => ?_, h.behind.imp_of_mem fun {r s} hr hs hrs => ?_⟩
    · exact ((hcuts r).ascending hsize (h.nonempty r hr)).behind
    · intro p hp q hq
      have hlast := ((hcuts r).inside hsize (h.nonempty r hr) hp).2.2
      have hfirst := ((hcuts s).inside hsize (h.nonempty s hs) hq).1
      exact UInt64.lt_of_lt_of_le (UInt64.lt_of_le_of_lt hlast hrs) hfirst

/-- **Pieces tile their ranges.**  Every range is cut into pieces one after the other, which comes to
an end with one group of pieces for each range; they follow each other through the range, and all but
the last are full.  So the blocks are those of the ranges, pieces ascend like the ranges, and there
are the same gaps.  With a size of zero nothing is cut. -/
theorem splitAll_isCut (rs : List BlockRange) :
    (∀ size, 0 < size → (∀ r ∈ rs, r.first ≤ r.last) →
      (∃ groups, List.Forall₂ (fun r pieces =>
          (∀ pieces', Cuts size r pieces' ↔ pieces' = pieces) ∧ IsCut r size pieces) rs groups ∧
        splitAll rs size = groups.flatten) ∧
      (∀ b, (∃ p ∈ splitAll rs size, b ∈ p) ↔ ∃ r ∈ rs, b ∈ r) ∧
      (Ascending rs → Ascending (splitAll rs size)) ∧
      ∀ bounds, gaps (splitAll rs size) bounds = gaps rs bounds) ∧
    splitAll rs 0 = rs := by
  refine ⟨fun size hsize hrs => ⟨⟨rs.map (·.split size), ?_, ?_⟩, fun b => ?_, ?_, ?_⟩,
    splitAll_zero rs⟩
  · refine List.forall₂_map_right_iff.2 (List.forall₂_same.2 fun r hr => ⟨fun _ => ?_, ?_⟩)
    · exact cuts_iff hsize
    · exact (cuts_split hsize r).isCut hsize (hrs r hr)
  · exact List.flatMap_def
  · exact exists_mem_splitAll hsize hrs
  · exact Ascending.splitAll hsize
  · exact gaps_splitAll hsize rs

/-- The first two ranges touch, and the last one ends with the largest block. -/
def upToMax : List BlockRange := [⟨0, 9⟩, ⟨10, 12⟩, ⟨Word.max - 4, Word.max⟩]

theorem splitAll_isCut_upToMax :
    (0 : Word) < 4 ∧ (∀ r ∈ upToMax, r.first ≤ r.last) ∧ Ascending upToMax ∧
      splitAll upToMax 4 = [⟨0, 3⟩, ⟨4, 7⟩, ⟨8, 9⟩, ⟨10, 12⟩, ⟨Word.max - 4, Word.max - 1⟩,
        ⟨Word.max, Word.max⟩] ∧
      Ascending (splitAll upToMax 4) ∧
      ∀ bounds, gaps (splitAll upToMax 4) bounds = gaps upToMax bounds := by
  have hsize : (0 : Word) < 4 := by decide
  have hranges : ∀ r ∈ upToMax, r.first ≤ r.last := by decide
  have hascending : Ascending upToMax := ⟨hranges, by decide⟩
  obtain ⟨-, -, hpieces, hgaps⟩ := (splitAll_isCut upToMax).1 4 hsize hranges
  exact ⟨hsize, hranges, hascending, by decide, hpieces hascending, hgaps⟩

end BlockRange
end BatchInbox
