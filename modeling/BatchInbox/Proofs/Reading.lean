import BatchInbox.Proofs.Intake

/-!
# Reading block by block

The intake goes on to a block before it takes the block's transactions, and blocks without any
transactions count too: they are where channels time out.  A channel all of whose frames are in
blocks within the timeout of each other does not.

## What is here

* `Intake.Block`, `Intake.Reads` — the intake reads blocks, none of whose transactions it refuses.
* `Intake.block_stage`, `Intake.Reads.whole_mem` — what is missing of a channel, block by block.
* `Intake.Reads.exists_whole_mem` — a channel all of whose frames are read in time is among those
  that close.
-/

set_option autoImplicit false
namespace BatchInbox
namespace Intake

/-- A block with its transactions as they are pushed. -/
structure Block where
  number : Word
  posts : List Post

/-- The frames of a channel in a block. -/
def Block.own (id : ChannelId) (b : Block) : List Frame :=
  b.posts.flatMap (Post.own id)

/-- The intake goes on to each block and takes its transactions, none of which it refuses.  The
closed channels are those that the pushes give, in their order. -/
inductive Reads : Intake → List Block → List ClosedChannel → Intake → Prop where
  | nil (s : Intake) : Reads s [] [] s
  | cons {s s₁ s₂ s₃ : Intake} {b : Block} {blocks : List Block}
      {given : List (List ClosedChannel)} {closed : List ClosedChannel}
      (hadvance : s.advance b.number = (.ok (), s₁))
      (hpush : s₁.pushAll b.posts = (given.map .ok, s₂))
      (hrest : Reads s₂ blocks closed s₃) : Reads s (b :: blocks) (given.flatten ++ closed) s₃

variable {id : ChannelId} {first : Word} {all seen rest : List Frame}

/-- If nothing is missing behind the last transaction, the channel is among what the pushes give. -/
theorem whole_mem_flatten {given : List (List ClosedChannel)} {posts : List Post}
    (hrun : given.map (closedOf id ∘ Except.ok) = completions id first all [] posts)
    (hown : posts.flatMap (Post.own id) ≠ []) :
    ∃ closedAt, whole id first all closedAt ∈ given.flatten := by
  obtain ⟨before, last, after, rfl, hlast, hafter⟩ := exists_last hown
  rw [completions_append hlast hafter] at hrun
  have hmem : [whole id first all last.tx.position] ∈ given.map (closedOf id ∘ Except.ok) := by
    rw [hrun]
    simp
  obtain ⟨closed, hclosed, hwhole⟩ := List.mem_map.1 hmem
  have : whole id first all last.tx.position ∈ closed.filter (·.id = id) := by
    rw [show closed.filter (·.id = id) = _ from hwhole]
    exact List.mem_singleton_self _
  exact ⟨_, List.mem_flatten.2 ⟨closed, hclosed, (List.mem_filter.1 this).1⟩⟩

/-- A block with frames of a channel takes it from one stage to another, and gives it if nothing of
it is missing any more. -/
theorem block_stage (hall : Frame.IsWhole id all) {s s₁ s₂ : Intake} {b : Block}
    {given : List (List ClosedChannel)} (hadvance : s.advance b.number = (.ok (), s₁))
    (hpush : s₁.pushAll b.posts = (given.map .ok, s₂))
    (h : s.table.Stage id first seen (b.own id ++ rest))
    (hperm : (seen ++ (b.own id ++ rest)).Perm all)
    (hfirst : seen = [] → b.own id ≠ [] → b.number = first)
    (hintime : b.own id ++ rest ≠ [] → b.number ≤ Word.addSat first s.table.timeout)
    (hblock : ∀ p ∈ b.posts, p.tx.block = b.number)
    (hcount : ∀ p ∈ b.posts, p.own id ≠ [] → p.HasBlobs) :
    s₂.table.Stage id first (seen ++ b.own id) rest ∧ s₂.table.timeout = s.table.timeout ∧
      (b.own id ≠ [] → rest = [] → ∃ closedAt, whole id first all closedAt ∈ given.flatten) := by
  obtain ⟨hstage, htimeout⟩ := advance_stage h fun _ => hintime
  have hreached := block?_of_advance hadvance
  rw [hadvance] at hstage htimeout
  have hfirst' : seen = [] → ∀ p, b.posts.find? (·.own id ≠ []) = some p →
      p.tx.block = first := by
    intro hseen p hp
    have hmem := List.mem_of_find?_eq_some hp
    have hown : p.own id ≠ [] := by simpa using List.find?_some hp
    rw [hblock p hmem]
    exact hfirst hseen fun hnone => hown (List.flatMap_eq_nil_iff.1 hnone p hmem)
  have hintime' : ∀ p ∈ b.posts, p.own id ≠ [] ∨ rest ≠ [] →
      p.tx.block ≤ Word.addSat first s₁.table.timeout := by
    intro p hp hsome
    rw [hblock p hp, htimeout]
    refine hintime fun hnone => ?_
    obtain ⟨hown, hrest⟩ := List.append_eq_nil_iff.1 hnone
    exact hsome.elim (fun h => h (List.flatMap_eq_nil_iff.1 hown p hp)) fun h => h hrest
  have horder : b.posts.Pairwise fun p q => q.own id ≠ [] → p.tx.block ≤ q.tx.block := by
    refine List.Pairwise.imp_of_mem ?_ (List.pairwise_of_forall fun _ _ => trivial)
    intro p q hp hq _ _
    rw [hblock p hp, hblock q hq]
    exact UInt64.le_refl _
  have hcursor : ∀ p ∈ b.posts, p.own id ≠ [] →
      ∀ current, s₁.block? = some current → current ≤ p.tx.block := by
    intro p hp _ current hcurrent
    rw [hreached] at hcurrent
    rw [hblock p hp, Option.some.inj hcurrent]
    exact UInt64.le_refl _
  obtain ⟨hrun, hstage', htimeout'⟩ :=
    pushAll_stage hall hstage hperm hfirst' hintime' horder hcursor hcount
  rw [hpush] at hrun hstage' htimeout'
  refine ⟨hstage', htimeout'.trans htimeout, fun hown hrest => ?_⟩
  rw [hrest, List.map_map] at hrun
  exact whole_mem_flatten hrun hown

/-- What is missing of a channel closes it, if it is read in time. -/
theorem Reads.whole_mem (hall : Frame.IsWhole id all) {s s' : Intake} {blocks : List Block}
    {closed : List ClosedChannel} (h : s.Reads blocks closed s')
    (hstage : s.table.Stage id first seen (blocks.flatMap (Block.own id)))
    (hperm : (seen ++ blocks.flatMap (Block.own id)).Perm all)
    (hsome : blocks.flatMap (Block.own id) ≠ [])
    (hfirst : seen = [] → ∀ b, blocks.find? (·.own id ≠ []) = some b → b.number = first)
    (hintime : ∀ b ∈ blocks, b.own id ≠ [] → b.number ≤ Word.addSat first s.table.timeout)
    (horder : blocks.Pairwise (·.number < ·.number))
    (hblock : ∀ b ∈ blocks, ∀ p ∈ b.posts, p.tx.block = b.number)
    (hcount : ∀ b ∈ blocks, ∀ p ∈ b.posts, p.own id ≠ [] → p.HasBlobs) :
    ∃ closedAt, whole id first all closedAt ∈ closed := by
  induction h generalizing seen with
  | nil s => exact absurd rfl hsome
  | @cons s s₁ s₂ s₃ b blocks given closed hadvance hpush _ ih =>
    rw [List.flatMap_cons] at hstage hperm
    rw [List.forall_mem_cons] at hintime hblock hcount
    obtain ⟨hlater, horder⟩ := List.pairwise_cons.1 horder
    have hfirst' : seen = [] → b.own id ≠ [] → b.number = first := fun hseen hown =>
      hfirst hseen b (List.find?_cons_of_pos (decide_eq_true hown))
    have hintime' : b.own id ++ blocks.flatMap (Block.own id) ≠ [] →
        b.number ≤ Word.addSat first s.table.timeout := by
      intro hne
      rw [← List.append_nil (blocks.flatMap _)] at hne
      exact le_of_toCome (fun hown => hintime.1 (hown.resolve_right fun h => h rfl))
        (fun b' hb' _ => UInt64.le_of_lt (hlater b' hb'))
        (fun b' hb' hown => hintime.2 b' hb' (hown.resolve_right fun h => h rfl)) hne
    obtain ⟨hstage', htimeout, hcloses⟩ :=
      block_stage hall hadvance hpush hstage hperm hfirst' hintime' hblock.1 hcount.1
    by_cases hrest : blocks.flatMap (Block.own id) = []
    · have hown : b.own id ≠ [] := by
        rwa [List.flatMap_cons, hrest, List.append_nil] at hsome
      obtain ⟨closedAt, hmem⟩ := hcloses hown hrest
      exact ⟨closedAt, List.mem_append_left closed hmem⟩
    · have hperm' : (seen ++ b.own id ++ blocks.flatMap (Block.own id)).Perm all := by
        rw [List.append_assoc]
        exact hperm
      have hfirst'' : seen ++ b.own id = [] →
          ∀ b', blocks.find? (·.own id ≠ []) = some b' → b'.number = first := by
        intro hnil b' hb'
        obtain ⟨hseen, hown⟩ := List.append_eq_nil_iff.1 hnil
        exact hfirst hseen b' ((List.find?_cons_of_neg (by simp [hown])).trans hb')
      obtain ⟨closedAt, hmem⟩ := ih hstage' hperm' hrest hfirst''
        (by rw [htimeout]; exact hintime.2) horder hblock.2 hcount.2
      exact ⟨closedAt, List.mem_append_right _ hmem⟩

/-- **All frames of a channel**, each read once and in any order but in time, close it. -/
theorem Reads.exists_whole_mem (hall : Frame.IsWhole id all) {s s' : Intake} {blocks : List Block}
    {closed : List ClosedChannel} (h : s.Reads blocks closed s')
    (honce : (blocks.flatMap (Block.own id)).Perm all)
    (hspan : ∀ a ∈ blocks, ∀ b ∈ blocks, a.own id ≠ [] → b.own id ≠ [] →
      b.number.toNat ≤ a.number.toNat + s.table.timeout.toNat)
    (horder : blocks.Pairwise (·.number < ·.number))
    (hblock : ∀ b ∈ blocks, ∀ p ∈ b.posts, p.tx.block = b.number)
    (hcount : ∀ b ∈ blocks, ∀ p ∈ b.posts, p.own id ≠ [] → p.HasBlobs)
    (hnew : s.table.find? id = none) :
    ∃ first closedAt, whole id first all closedAt ∈ closed := by
  have hsome : blocks.flatMap (Block.own id) ≠ [] := by
    obtain ⟨f, hf, -⟩ := hall.exists_last
    exact List.ne_nil_of_mem (honce.mem_iff.2 hf)
  have horder' : blocks.Pairwise fun a b => b.own id ≠ [] → a.number ≤ b.number := by
    refine horder.imp ?_
    intro a b hlt _
    exact UInt64.le_of_lt hlt
  obtain ⟨first, hmem, hfind, hown, -⟩ := exists_first hsome horder'
  have hfirst : ∀ b, blocks.find? (·.own id ≠ []) = some b → b.number = first.number := by
    intro b hb
    rw [Option.some.inj (hfind.symm.trans hb)]
  exact ⟨first.number, h.whole_mem hall (.inl ⟨.inl rfl, hnew⟩) honce hsome (fun _ => hfirst)
    (fun b hb hne => Word.le_addSat (hspan first hmem b hb hown hne)) horder hblock hcount⟩

end Intake
end BatchInbox
