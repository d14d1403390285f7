import BatchInbox.Proofs.Completeness
import BatchInbox.Proofs.Timestamps

/-!
# The window is the tight cover of a request

The L2 blocks of a request have their times, and batches for them are looked for a while before and
after these.  The window of a request begins with the last final block that is not behind the first
of these times, and ends with the first one that is not before the last.  Where L1 does not go so far,
it begins with block 0, or ends with the last final block.

Nothing is assumed about the margins: they may be so large that the times in question are cut off at
zero, or at the largest word.

## What is here

* `requestTimes_eq_ok`, `requestTimes_le` — a request that makes sense has its times in order.
* `toNat_searchTimes` — how far around them batches are looked for.
* `L1Chain.IsCover` — the tight cover of two times.
* `resolve_window` — the window that is scanned, and told, is the tight cover; and there is one, if
  the client answers and the caller does not give up.
-/

set_option autoImplicit false
namespace BatchInbox

/-! ## Times -/

/-- A request that makes sense. -/
theorem requestTimes_eq_ok {c : Rollup} {start last : Word} {times : Word × Word}
    (h : requestTimes c start last = .ok times) :
    start ≤ last ∧ c.validate = .ok () ∧ c.timestamp start = .ok times.1 ∧
      c.timestamp last = .ok times.2 := by
  rw [requestTimes] at h
  split at h
  · exact absurd h nofun
  · rename_i horder
    rcases hvalid : c.validate with e | ⟨⟩ <;> rcases hfirst : c.timestamp start with e' | first <;>
      rcases hfinal : c.timestamp last with e'' | final <;> simp only [hvalid, hfirst, hfinal] at h <;>
      cases h
    exact ⟨UInt64.not_lt.1 horder, rfl, rfl, rfl⟩

/-- **The times of a request are in order.** -/
theorem requestTimes_le {c : Rollup} {start last : Word} {times : Word × Word}
    (h : requestTimes c start last = .ok times) : times.1 ≤ times.2 := by
  obtain ⟨horder, -, hfirst, hfinal⟩ := requestTimes_eq_ok h
  rw [UInt64.le_iff_toNat_le] at horder ⊢
  rw [(Rollup.timestamp_eq_ok_iff.1 hfirst).2, (Rollup.timestamp_eq_ok_iff.1 hfinal).2]
  exact Nat.add_le_add_right (Nat.mul_le_mul_right _ (Nat.sub_le_sub_right horder _)) _

/-- **How far batches are looked for**: as many seconds around the request as the margin says, but not
more than a sequencing window, and a channel timeout more behind it; cut off at zero and at the
largest word. -/
theorem toNat_searchTimes (settings : ResolveSettings) (c : Rollup) (times : Word × Word) :
    (searchTimes settings c times).1.toNat =
        times.1.toNat - min settings.safetyMargin.toNat c.sequencingWindowSeconds.toNat ∧
      (searchTimes settings c times).2.toNat =
        min (times.2.toNat + min settings.safetyMargin.toNat c.sequencingWindowSeconds.toNat +
          c.channelTimeoutSeconds.toNat) (UInt64.size - 1) := by
  have hmargin : (BlockRange.earlier settings.safetyMargin c.sequencingWindowSeconds).toNat =
      min settings.safetyMargin.toNat c.sequencingWindowSeconds.toNat := by
    rw [BlockRange.earlier]
    split
    · rename_i hle
      rw [UInt64.le_iff_toNat_le] at hle
      omega
    · rename_i hlt
      rw [UInt64.le_iff_toNat_le] at hlt
      omega
  simp only [searchTimes, Word.toNat_subSat, Word.toNat_addSat, hmargin, true_and]
  omega

theorem searchTimes_le (settings : ResolveSettings) (c : Rollup) {times : Word × Word}
    (h : times.1 ≤ times.2) :
    (searchTimes settings c times).1 ≤ (searchTimes settings c times).2 := by
  obtain ⟨hfirst, hlast⟩ := toNat_searchTimes settings c times
  have hfits := times.2.toNat_lt
  rw [UInt64.le_iff_toNat_le] at h ⊢
  rw [hfirst, hlast]
  simp only [UInt64.size]
  omega

/-! ## Covers -/

/-- The blocks of a window are final, and all final blocks of the times are among them.  It begins
with the last block up to the first time and ends with the first block from the last time on, as far
as there are such blocks. -/
structure L1Chain.IsCover (l1 : L1Chain) (times : Word × Word) (window : BlockRange) : Prop where
  nonempty : window.first ≤ window.last
  final : window.last ≤ l1.head
  holds : ∀ n ≤ l1.head, times.1 ≤ l1.time n → l1.time n ≤ times.2 → n ∈ window
  first : l1.IsLastUpTo times.1 window.first
  last : l1.IsFirstFrom times.2 window.last

variable {l1 : L1Chain}

/-- The ends alone make a cover. -/
theorem L1Chain.isCover_of_ends (hinc : l1.IsIncreasing) {times : Word × Word} {window : BlockRange}
    (htimes : times.1 ≤ times.2) (hfirst : l1.IsLastUpTo times.1 window.first)
    (hlast : l1.IsFirstFrom times.2 window.last) : l1.IsCover times window where
  nonempty := by
    rcases hlast with ⟨-, htime, -⟩ | ⟨hhead, -⟩
    · exact hfirst.le hinc (UInt64.le_trans htimes htime)
    · rcases hfirst with ⟨hfinal, -⟩ | ⟨hzero, -⟩
      · rw [hhead]
        exact hfinal
      · rw [hzero]
        exact UInt64.zero_le
  final := hlast.final
  holds _ hn hearly hlate := BlockRange.mem_iff.2 ⟨hfirst.le hinc hearly, hlast.le hinc hn hlate⟩
  first := hfirst
  last := hlast

/-! ## Requests -/

section
variable {σ : Type} {u : Endpoints σ} {c : Rollup}

/-- **The window is the tight cover of the request.**  The client tells the truth about the headers of
an L1 whose times ascend.  The times in question are those of the request, a margin before and behind
it, and a channel timeout more behind it.  The window that is found is the tight cover of these times;
it is what the request goes on to scan, and what its result tells.  If the client always answers and
the caller does not give up, a window is found. -/
theorem resolve_window {E : RpcError → Prop} (hshows : l1.Shows u.l1 E) (hinc : l1.IsIncreasing)
    {start last : Word} {times : Word × Word} (htimes : requestTimes c start last = .ok times)
    (settings : ResolveSettings) (s : Session σ) :
    let span := searchTimes settings c times
    let margin := min settings.safetyMargin.toNat c.sequencingWindowSeconds.toNat
    (span.1.toNat = times.1.toNat - margin ∧
      span.2.toNat =
        min (times.2.toNat + margin + c.channelTimeoutSeconds.toNat) (UInt64.size - 1)) ∧
    (∀ first final s₁, (findWindow u settings c times).step s = (.ok (first, final), s₁) →
      l1.IsCover span ⟨first, final⟩ ∧
        (resolve u settings c start last).step s =
          (((scan u c settings.concurrency first final).step s₁).1.bind fun read =>
              assemble settings c ⟨start, last⟩ ⟨first, final⟩ read.1 read.2,
            ((scan u c settings.concurrency first final).step s₁).2)) ∧
    (∀ res s', (resolve u settings c start last).step s = (.ok res, s') →
      l1.IsCover span ⟨res.l1Start, res.l1End⟩) ∧
    ((∀ e, ¬ E e) → (∀ w, u.isCancelled w = false) →
      ∃ first final s₁, (findWindow u settings c times).step s = (.ok (first, final), s₁)) := by
  intro span margin
  have hcover : ∀ first final s₁,
      (findWindow u settings c times).step s = (.ok (first, final), s₁) →
        l1.IsCover span ⟨first, final⟩ := by
    intro first final s₁ hwindow
    have hensures : (findWindow u settings c times).Ensures (fun _ => True) (l1.EndsAt span)
        fun _ => True :=
      hshows.ensures_findWindow hinc settings c times (fun _ _ => id) (fun _ _ => trivial)
        fun _ _ => trivial
    obtain ⟨⟨hfirst, hlast⟩, -⟩ := hensures.of_ok trivial hwindow
    exact L1Chain.isCover_of_ends hinc (searchTimes_le settings c (requestTimes_le htimes)) hfirst
      hlast
  refine ⟨toNat_searchTimes settings c times,
    fun first final s₁ hwindow => ⟨hcover first final s₁ hwindow, ?_⟩, fun res s' h => ?_,
    fun hanswers hgoes => ?_⟩
  · rw [step_resolve, htimes]
    simp only [hwindow]
  · obtain ⟨times', s₁, -, -, htimes', hwindow, -⟩ := resolve_eq_ok h
    rw [htimes] at htimes'
    cases htimes'
    exact hcover _ _ _ hwindow
  · have hensures : (findWindow u settings c times).Ensures (fun _ => True) (l1.EndsAt span)
        fun _ => False :=
      hshows.ensures_findWindow hinc settings c times (fun _ _ => id) hanswers
        fun w hcancelled => absurd hcancelled (by simp [hgoes w])
    obtain ⟨⟨first, final⟩, s₁, hwindow, -⟩ := hensures.exists_ok trivial
    exact ⟨first, final, s₁, hwindow⟩

/-- The request for the channel of three blocks: block 0 is the last one up to the first time, and
block 3 the first one from the last time on. -/
theorem resolve_window_threeBlocks : threeBlocksL1.IsCover (108, 128) ⟨0, 3⟩ := by
  have htimes : requestTimes threeBlocksRollup 10 12 = .ok (110, 114) := by decide +kernel
  have hanswer : ((resolve threeBlocksNodes threeBlocksSettings threeBlocksRollup 10 12).step
      ⟨(), .empty, .empty⟩).1 = .ok ⟨[⟨10, 12⟩], [], 0, 3⟩ := by
    decide +kernel
  obtain ⟨-, -, hwindow, -⟩ := resolve_window (u := threeBlocksNodes) threeBlocksL1.shows_client
    threeBlocksL1_isIncreasing htimes threeBlocksSettings ⟨(), .empty, .empty⟩
  exact hwindow _ _ (Prod.ext hanswer rfl)

end

end BatchInbox
