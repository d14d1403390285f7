import BatchInbox.Proofs.Completeness

/-!
# Strict requests

A strict request does all that a plain one does, and then refuses the result if blocks are missing.
So it fails where the plain one fails, and its answers are those of the plain one that leave nothing
out.  If it refuses, it names all blocks that the ranges leave out, in as few pieces as there are.

## What is here

* `Resolution.demand` — the last step of a strict request; `step_resolve_strict` — it is the only
  difference.
* `BlockRange.gaps_eq_nil_iff` — there are gaps exactly if blocks are left out.
* `resolve_strict` — what becomes of a strict request, by what becomes of the plain one.
-/

set_option autoImplicit false
namespace BatchInbox

/-! ## Gaps -/

/-- There are no gaps exactly if every block lies in some range. -/
theorem BlockRange.gaps_eq_nil_iff {ranges : List BlockRange} {whole : BlockRange}
    (h : Ascending ranges) : gaps ranges whole = [] ↔ ∀ b ∈ whole, ∃ r ∈ ranges, b ∈ r := by
  constructor
  · intro hnil b hb
    by_contra hnone
    obtain ⟨g, hg, -⟩ := (gaps_runs whole h).covers b hb
      (free_ne_none_iff.2 fun r hr hbr => hnone ⟨r, hr, hbr⟩)
    rw [hnil] at hg
    exact List.not_mem_nil hg
  · intro hall
    refine List.eq_nil_iff_forall_not_mem.2 fun g hg => ?_
    have hfirst := first_mem ((gaps_runs whole h).nonempty g hg)
    obtain ⟨hb, hnone⟩ := (exists_mem_gapsFrom h).1 ⟨g, hg, hfirst⟩
    obtain ⟨r, hr, hbr⟩ := hall g.first hb
    exact hnone r hr hbr

/-! ## The last step -/

/-- The result, unless it leaves out blocks of the request. -/
def Resolution.demand (request : BlockRange) (r : Resolution) : Except ResolveError Resolution :=
  match BlockRange.gaps r.ranges request with
  | [] => .ok r
  | missing => .error (.coverageGap missing)

section
variable {σ : Type} (u : Endpoints σ) (settings : ResolveSettings) (c : Rollup)

theorem assemble_strict (request window : BlockRange) (closed : List ClosedChannel)
    (dropped : List DroppedChannel) :
    assemble { settings with isStrict := true } c request window closed dropped =
      (assemble { settings with isStrict := false } c request window closed dropped).bind
        (Resolution.demand request) := by
  rw [assemble, assemble]
  cases decodeChannels c settings.maxChannelSize closed with
  | error e => rfl
  | ok decoded =>
    simp only [Bool.false_eq_true, false_and, if_false, true_and, Except.bind, Resolution.demand]
    split
    · rename_i hmissing
      split
      · exact absurd ‹_› hmissing
      · rfl
    · rename_i hnone
      rw [not_not.1 hnone]

/-- **The last step is the only difference** between a strict request and a plain one. -/
theorem step_resolve_strict (start last : Word) (s : Session σ) :
    (resolve u { settings with isStrict := true } c start last).step s =
      (((resolve u { settings with isStrict := false } c start last).step s).1.bind
          (Resolution.demand ⟨start, last⟩),
        ((resolve u { settings with isStrict := false } c start last).step s).2) := by
  rw [step_resolve, step_resolve]
  cases requestTimes c start last with
  | error cause => rfl
  | ok times =>
    have hwindow : findWindow u { settings with isStrict := true } c times =
        findWindow u { settings with isStrict := false } c times := rfl
    simp only [hwindow]
    rcases (findWindow u { settings with isStrict := false } c times).step s with
      ⟨e | ⟨first, final⟩, s₁⟩
    · rfl
    · simp only
      rcases (scan u c settings.concurrency first final).step s₁ with ⟨e | read, s₂⟩
      · rfl
      · simp only [Except.bind, assemble_strict]

/-- The ranges of a result are ascending, and within the request. -/
theorem ascending_resolve {start last : Word} {s s' : Session σ} {r : Resolution}
    (h : (resolve u settings c start last).step s = (.ok r, s')) :
    BlockRange.Ascending r.ranges ∧ ∀ range ∈ r.ranges, start ≤ range.first ∧ range.last ≤ last := by
  obtain ⟨times, s₁, closed, dropped, -, -, -, hassemble⟩ := resolve_eq_ok h
  obtain ⟨decoded, -, hr⟩ := assemble_spec hassemble
  have hruns := Partition.runs_ofCoverages decoded.1 ⟨start, last⟩
  rw [hr]
  exact ⟨hruns.toAscending, hruns.inside⟩

/-- **Strict requests refine plain ones.**  From the same state both leave the same state behind.  The
strict request fails like the plain one, and has its result if that covers all blocks of the request.
Otherwise it fails with the ascending list of the maximal runs of blocks that no range of the plain
result covers, and these runs and the ranges tile the request. -/
theorem resolve_strict (start last : Word) (s : Session σ) :
    let plain := (resolve u { settings with isStrict := false } c start last).step s
    let strict := (resolve u { settings with isStrict := true } c start last).step s
    strict.2 = plain.2 ∧ (∀ e, plain.1 = .error e → strict.1 = .error e) ∧
      ∀ r, plain.1 = .ok r →
        ((∀ b ∈ (⟨start, last⟩ : BlockRange), ∃ range ∈ r.ranges, b ∈ range) →
          strict.1 = .ok r) ∧
        (¬ (∀ b ∈ (⟨start, last⟩ : BlockRange), ∃ range ∈ r.ranges, b ∈ range) →
          ∃ missing, strict.1 = .error (.coverageGap missing) ∧
            missing.Pairwise (fun g g' => g.last < g'.first) ∧
            (∀ g, g ∈ missing ↔
              BlockRange.IsMaximalRun (BlockRange.free r.ranges) ⟨start, last⟩ g) ∧
            BlockRange.Tiles (missing ++ r.ranges) ⟨start, last⟩) := by
  intro plain strict
  have hstrict : strict = (plain.1.bind (Resolution.demand ⟨start, last⟩), plain.2) :=
    step_resolve_strict u settings c start last s
  rw [hstrict]
  refine ⟨rfl, fun e he => ?_, fun r hr => ?_⟩
  · rw [he]
    rfl
  · have hstep : plain = (.ok r, plain.2) := Prod.ext hr rfl
    obtain ⟨hranges, hinside⟩ := ascending_resolve u _ c hstep
    simp only [hr, Except.bind, Resolution.demand]
    rw [← BlockRange.gaps_eq_nil_iff hranges]
    refine ⟨fun hnil => ?_, fun hne => ?_⟩
    · rw [hnil]
    · have hruns := BlockRange.gaps_runs ⟨start, last⟩ hranges
      refine ⟨_, ?_, hruns.behind, fun g => hruns.mem_iff, BlockRange.tiles_gaps hranges hinside⟩
      split
      · exact absurd ‹_› hne
      · rfl

end

/-! ### An example

The channel of three blocks does not cover the blocks on either side. -/

/-- The strict request for the five blocks fails, and a gap in front of the batch is among those that
it names. -/
theorem resolve_strict_fiveBlocks : ∃ missing,
    ((resolve threeBlocksNodes { threeBlocksSettings with isStrict := true } threeBlocksRollup
      9 13).step ⟨(), .empty, .empty⟩).1 = .error (.coverageGap missing) ∧
      ∃ g ∈ missing, 9 ∈ g := by
  obtain ⟨-, -, hok⟩ := resolve_strict threeBlocksNodes threeBlocksSettings threeBlocksRollup 9 13
    ⟨(), .empty, .empty⟩
  have hplain : ((resolve threeBlocksNodes { threeBlocksSettings with isStrict := false }
      threeBlocksRollup 9 13).step ⟨(), .empty, .empty⟩).1 = .ok ⟨[⟨10, 12⟩], [], 0, 3⟩ := by
    decide +kernel
  have hopen : ∀ range ∈ ([⟨10, 12⟩] : List BlockRange), 9 ∉ range := by
    decide
  obtain ⟨missing, hstrict, -, -, htiles⟩ := (hok _ hplain).2 fun hall => by
    obtain ⟨range, hrange, hmem⟩ := hall 9 (by decide)
    exact hopen range hrange hmem
  refine ⟨missing, hstrict, ?_⟩
  have honce := htiles.once 9 (by decide)
  rw [List.countP_append, List.countP_eq_zero.2 fun r hr h => hopen r hr (of_decide_eq_true h)]
    at honce
  obtain ⟨g, hg, h9⟩ := List.countP_pos_iff.1 (by omega : 0 < missing.countP fun g => 9 ∈ g)
  exact ⟨g, hg, of_decide_eq_true h9⟩

end BatchInbox
