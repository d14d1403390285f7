import BatchInbox.Proofs.Ensures
import BatchInbox.Resolve.Window

/-!
# The ends of the window

Halving by itself only finds two neighbours with one on either side.  If the times of blocks ascend,
everything in front of the first neighbour is on its side, and everything behind the second one on
the other.  So the first neighbour is the last block on its side, and the second one the first block on
the other.

What an execution client says is compared with what happened on L1.  A client may fail, and may do
so at any call, but what it says about final blocks has to be true.

## What is here

* `L1Chain` — what happened on L1; `L1Chain.IsIncreasing`, `L1Chain.ToldBy`.
* `L1Chain.client` — a client that never fails.
* `ensures_bisect` — what halving finds.
* `L1Chain.IsLastUpTo`, `L1Chain.IsFirstFrom` — the last block up to a time, and the first one from a
  time on.
* `L1Chain.ensures_lastAtOrBefore`, `L1Chain.ensures_firstAtOrAfter` — the ends of the window are these.
-/

set_option autoImplicit false
namespace BatchInbox
open Effect (Ensures)

/-! ## L1 -/

/-- What happened on L1 up to the last final block. -/
structure L1Chain where
  /-- The last final block. -/
  head : Word
  /-- The time of each block. -/
  time : Word → Word
  /-- The transactions of each block. -/
  txs : Word → List L1Tx

namespace L1Chain
variable {σ : Type}

/-- The times of final blocks ascend. -/
def IsIncreasing (l1 : L1Chain) : Prop :=
  ∀ m n, m < n → n ≤ l1.head → l1.time m < l1.time n

theorem IsIncreasing.le {l1 : L1Chain} (h : l1.IsIncreasing) {m n : Word} (hmn : m ≤ n)
    (hn : n ≤ l1.head) : l1.time m ≤ l1.time n := by
  by_cases heq : m = n
  · rw [heq]
    exact UInt64.le_refl _
  · exact UInt64.le_of_lt (h m n (UInt64.lt_of_le_of_ne hmn heq) hn)

/-- A block that is not behind in time is not behind. -/
theorem IsIncreasing.le_of_time_le {l1 : L1Chain} (h : l1.IsIncreasing) {m n : Word}
    (hm : m ≤ l1.head) (htime : l1.time m ≤ l1.time n) : m ≤ n :=
  UInt64.not_lt.1 fun hlt => UInt64.not_lt.2 htime (h n m hlt hm)

/-- The header of a block. -/
def header (l1 : L1Chain) (n : Word) : L1Header := ⟨n, l1.time n⟩

/-- A block with its transactions. -/
def block (l1 : L1Chain) (n : Word) : L1Block := ⟨n, l1.time n, l1.txs n⟩

/-- Whatever the client says about final blocks is true. -/
structure ToldBy (l1 : L1Chain) (source : L1Source σ) : Prop where
  finalized : ∀ {s h s'}, source.finalized.step s = (.ok h, s') → h = l1.header l1.head
  header : ∀ {n s h s'}, n ≤ l1.head → (source.header n).step s = (.ok h, s') → h = l1.header n
  block : ∀ {n s b s'}, n ≤ l1.head → (source.block n).step s = (.ok b, s') → b = l1.block n

/-- A client that never fails. -/
def client (l1 : L1Chain) : L1Source Unit where
  finalized := return l1.header l1.head
  header n := return l1.header n
  block n := return l1.block n

theorem toldBy_client (l1 : L1Chain) : l1.ToldBy l1.client where
  finalized h := by cases h; rfl
  header _ h := by cases h; rfl
  block _ h := by cases h; rfl

end L1Chain

/-! ## Halving -/

section
variable {σ ε : Type} {I : σ → Prop} {E : ε → Prop}

/-- Halving ends between neighbours of which `R` separates the first from the second, unless they
are the ends that it began with. -/
theorem ensures_bisect {isLow : Nat → Effect σ ε Bool} {R : Nat → Prop} {low high : Nat}
    (hlow : ∀ n < high, (isLow n).Ensures I (fun b => b = true ↔ R n) E) :
    (bisect isLow low high).Ensures I
      (fun r => (r.1 = low ∨ R r.1) ∧ (r.2 = high ∨ ¬ R r.2) ∧ r.2 ≤ high ∧
        (low ≤ high → r.1 ≤ r.2) ∧ (low < high → r.2 = r.1 + 1)) E := by
  induction hgap : high - low using Nat.strongRecOn generalizing low high with
  | ind gap ih =>
    rw [bisect]
    split
    · rename_i hwide
      refine (hlow _ (by omega)).bind fun b hb => ?_
      split
      · rename_i htrue
        refine (ih _ (by omega) hlow rfl).mono (fun r hr => ?_) fun _ => id
        obtain ⟨hl, hr, hle, hlr, hnext⟩ := hr
        refine ⟨.inr ?_, hr, hle, fun _ => hlr (by omega), fun _ => hnext (by omega)⟩
        rcases hl with hl | hl
        · rw [hl]
          exact hb.1 htrue
        · exact hl
      · rename_i hfalse
        refine (ih _ (by omega) (fun n hn => hlow n (by omega)) rfl).mono (fun r hr => ?_)
          fun _ => id
        obtain ⟨hl, hr, hle, hlr, hnext⟩ := hr
        refine ⟨hl, .inr ?_, by omega, fun _ => hlr (by omega), fun _ => hnext (by omega)⟩
        rcases hr with hr | hr
        · rw [hr]
          exact fun hmiddle => hfalse (hb.2 hmiddle)
        · exact hr
    · exact .pure ⟨.inl rfl, .inl rfl, Nat.le_refl _, id, by omega⟩

end

/-! ## The ends of the window -/

namespace L1Chain
variable {σ : Type} {l1 : L1Chain} {source : L1Source σ} {E : RpcError → Prop}

/-- The last final block whose time is not behind `time`, or block 0 if there is none. -/
def IsLastUpTo (l1 : L1Chain) (time first : Word) : Prop :=
  (first ≤ l1.head ∧ l1.time first ≤ time ∧ ∀ n ≤ l1.head, l1.time n ≤ time → n ≤ first) ∨
    first = 0 ∧ ∀ n ≤ l1.head, time < l1.time n

/-- The first final block whose time is not before `time`, or the last final block if there is
none. -/
def IsFirstFrom (l1 : L1Chain) (time last : Word) : Prop :=
  (last ≤ l1.head ∧ time ≤ l1.time last ∧ ∀ n ≤ l1.head, time ≤ l1.time n → last ≤ n) ∨
    last = l1.head ∧ ∀ n ≤ l1.head, l1.time n < time

/-- No final block with a time from `time` on is in front of the last one up to it. -/
theorem IsLastUpTo.le (hinc : l1.IsIncreasing) {time first : Word} (h : l1.IsLastUpTo time first)
    {n : Word} (htime : time ≤ l1.time n) : first ≤ n := by
  rcases h with ⟨hfinal, hfirst, -⟩ | ⟨rfl, -⟩
  · exact hinc.le_of_time_le hfinal (UInt64.le_trans hfirst htime)
  · exact UInt64.zero_le

/-- The first final block from `time` on is final, and no final block with a time up to `time` is
behind it. -/
theorem IsFirstFrom.final {time last : Word} (h : l1.IsFirstFrom time last) : last ≤ l1.head := by
  rcases h with ⟨hfinal, -⟩ | ⟨rfl, -⟩
  · exact hfinal
  · exact UInt64.le_refl _

theorem IsFirstFrom.le (hinc : l1.IsIncreasing) {time last : Word} (h : l1.IsFirstFrom time last)
    {n : Word} (hn : n ≤ l1.head) (htime : l1.time n ≤ time) : n ≤ last := by
  rcases h with ⟨-, hlast, -⟩ | ⟨rfl, -⟩
  · exact hinc.le_of_time_le hn (UInt64.le_trans htime hlast)
  · exact hn

/-! ### Blocks by number -/

theorem toNat_toUInt64 {n : Nat} (h : n ≤ l1.head.toNat) : n.toUInt64.toNat = n := by
  have := l1.head.toNat_lt
  rw [Nat.toUInt64_eq, UInt64.toNat_ofNat']
  exact Nat.mod_eq_of_lt (by omega)

theorem toUInt64_le {n : Nat} (h : n ≤ l1.head.toNat) : n.toUInt64 ≤ l1.head := by
  rw [UInt64.le_iff_toNat_le, toNat_toUInt64 h]
  exact h

/-- Whatever the client says about final headers is true, and it fails with errors of `E` only. -/
structure Shows (l1 : L1Chain) (source : L1Source σ) (E : RpcError → Prop) : Prop where
  finalized : source.finalized.Ensures (fun _ => True) (· = l1.header l1.head) E
  header : ∀ n ≤ l1.head, (source.header n).Ensures (fun _ => True) (· = l1.header n) E

theorem ToldBy.shows (ht : l1.ToldBy source) : l1.Shows source fun _ => True where
  finalized := .of_forall fun _ _ _ => ht.finalized
  header _ hn := .of_forall fun _ _ _ => ht.header hn

theorem shows_client (l1 : L1Chain) : l1.Shows l1.client fun _ => False where
  finalized := .pure rfl
  header _ _ := .pure rfl

theorem ensures_timeOf (ht : l1.Shows source E) {n : Nat} (hn : n ≤ l1.head.toNat) :
    (timeOf source n).Ensures (fun _ => True) (· = l1.time n.toUInt64) E := by
  refine (ht.header _ (toUInt64_le hn)).bind fun header hheader => ?_
  rw [hheader]
  exact .pure rfl

/-- What halving asks of a block is asked of its time. -/
theorem ensures_isLow (ht : l1.Shows source E) (p : Word → Bool) {n : Nat}
    (hn : n < l1.head.toNat) :
    (do return p (← timeOf source n) : Effect σ RpcError Bool).Ensures (fun _ => True)
      (fun b => b = true ↔ p (l1.time n.toUInt64) = true) E := by
  refine (ensures_timeOf ht (Nat.le_of_lt hn)).bind fun t htime => ?_
  rw [htime]
  exact .pure Iff.rfl

/-! ### The searches -/

/-- Neighbours, of which the first is 0 or is up to a time and the second is behind that time: the
first is the last block up to it. -/
theorem isLastUpTo_of_neighbours (hinc : l1.IsIncreasing) {time : Word} {low high : Nat}
    (hlow : low = 0 ∨ l1.time low.toUInt64 ≤ time) (hhigh : time < l1.time high.toUInt64)
    (hle : high ≤ l1.head.toNat) (hlh : low ≤ high) (hnext : 0 < high → high = low + 1) :
    l1.IsLastUpTo time low.toUInt64 := by
  have hup : ∀ n ≤ l1.head, l1.time n ≤ time → n ≤ low.toUInt64 := by
    intro n hn htime
    have hlt : n < high.toUInt64 := by
      refine UInt64.not_le.1 fun hge => ?_
      exact UInt64.not_lt.2 (UInt64.le_trans (hinc.le hge hn) htime) hhigh
    rw [UInt64.lt_iff_toNat_lt, toNat_toUInt64 hle] at hlt
    rw [UInt64.le_iff_toNat_le, toNat_toUInt64 (Nat.le_trans hlh hle)]
    omega
  by_cases htime : l1.time low.toUInt64 ≤ time
  · exact .inl ⟨toUInt64_le (Nat.le_trans hlh hle), htime, hup⟩
  · obtain rfl := hlow.resolve_right htime
    refine .inr ⟨rfl, fun n hn => UInt64.not_le.1 fun hn' => htime ?_⟩
    rwa [UInt64.le_antisymm (hup n hn hn') UInt64.zero_le] at hn'

/-- Neighbours, of which the first is before a time and the second is not: the second is the first
block from that time on. -/
theorem isFirstFrom_of_neighbours (hinc : l1.IsIncreasing) {time : Word} {low high : Nat}
    (hlow : l1.time low.toUInt64 < time) (hhigh : time ≤ l1.time high.toUInt64)
    (hle : high ≤ l1.head.toNat) (hnext : high = low + 1) :
    l1.IsFirstFrom time high.toUInt64 := by
  refine .inl ⟨toUInt64_le hle, hhigh, fun n hn htime => ?_⟩
  have hlt : low.toUInt64 < n := by
    refine UInt64.not_le.1 fun hge => ?_
    have hlow' := hinc.le hge (toUInt64_le (by omega))
    exact UInt64.not_lt.2 (UInt64.le_trans htime hlow') hlow
  have hbelow : low ≤ l1.head.toNat := by omega
  rw [UInt64.lt_iff_toNat_lt, toNat_toUInt64 hbelow] at hlt
  rw [UInt64.le_iff_toNat_le, toNat_toUInt64 hle]
  omega

/-- **The window begins with the last block up to a time**, or with block 0. -/
theorem ensures_lastAtOrBefore (ht : l1.Shows source E) (hinc : l1.IsIncreasing) (time : Word) :
    (lastAtOrBefore source time (l1.header l1.head)).Ensures (fun _ => True) (l1.IsLastUpTo time)
      E := by
  rw [lastAtOrBefore]
  split
  · rename_i hhead
    exact .pure (.inl ⟨UInt64.le_refl _, hhead, fun n hn _ => hn⟩)
  · rename_i hhead
    refine (ensures_bisect fun n hn => ensures_isLow ht (fun t => decide (t ≤ time)) hn).bind
      fun r hr => ?_
    obtain ⟨hl, hr, hle, hlr, hnext⟩ := hr
    refine .pure (isLastUpTo_of_neighbours hinc (hl.imp_right of_decide_eq_true) ?_ hle
      (hlr (Nat.zero_le _)) ?_)
    · rcases hr with hr | hr
      · rw [hr, show l1.head.toNat.toUInt64 = l1.head by simp]
        exact UInt64.not_le.1 hhead
      · exact UInt64.not_le.1 fun h => hr (decide_eq_true h)
    · omega

/-- **The window ends with the first block from a time on**, or with the last final block. -/
theorem ensures_firstAtOrAfter (ht : l1.Shows source E) (hinc : l1.IsIncreasing) (time : Word) :
    (firstAtOrAfter source time (l1.header l1.head)).Ensures (fun _ => True)
      (l1.IsFirstFrom time) E := by
  rw [firstAtOrAfter]
  split
  · rename_i hhead
    refine .pure ?_
    by_cases heq : l1.time l1.head = time
    · refine .inl ⟨UInt64.le_refl _, by rw [← heq]; exact UInt64.le_refl _, fun n _ htime => ?_⟩
      exact hinc.le_of_time_le (UInt64.le_refl _) (UInt64.le_trans hhead htime)
    · refine .inr ⟨rfl, fun n hn => ?_⟩
      exact UInt64.lt_of_le_of_lt (hinc.le hn (UInt64.le_refl _)) (UInt64.lt_of_le_of_ne hhead heq)
  · rename_i hhead
    refine (ensures_timeOf ht (Nat.zero_le _)).bind fun t htime => ?_
    rw [htime]
    split
    · rename_i hgenesis
      exact .pure (.inl ⟨UInt64.zero_le, hgenesis, fun _ _ _ => UInt64.zero_le⟩)
    · rename_i hgenesis
      refine (ensures_bisect fun n hn => ensures_isLow ht (fun t => decide (t < time)) hn).bind
        fun r hr => ?_
      obtain ⟨hl, hr, hle, -, hnext⟩ := hr
      have hhigh : time ≤ l1.time r.2.toUInt64 := by
        rcases hr with hr | hr
        · rw [hr, show l1.head.toNat.toUInt64 = l1.head by simp]
          exact UInt64.le_of_lt (UInt64.not_le.1 hhead)
        · exact UInt64.not_lt.1 fun h => hr (decide_eq_true h)
      have hlow : l1.time r.1.toUInt64 < time := by
        rcases hl with hl | hl
        · rw [hl]
          exact UInt64.not_le.1 hgenesis
        · exact of_decide_eq_true hl
      refine .pure (isFirstFrom_of_neighbours hinc hlow hhigh hle (hnext ?_))
      -- block 0 is before the time and the last final block is not, so they differ
      refine Nat.pos_of_ne_zero fun hzero => hgenesis ?_
      have hhead0 : l1.head = 0 := UInt64.toNat_inj.1 hzero
      show time ≤ l1.time 0
      rw [← hhead0]
      exact UInt64.le_of_lt (UInt64.not_le.1 hhead)

end L1Chain
end BatchInbox
