import BatchInbox.Batch
import Mathlib.Algebra.Order.Ring.Nat

/-!
# Blocks and their timestamps

A chain has a timestamp for each of its blocks, found by a product and a sum, and a batch names its
blocks by timestamps, which are taken back to numbers by a quotient and a sum.  Each of these can
fail to fit a word, and at different inputs: near the largest word a block may have a number and no
timestamp.

As numbers of any size both ways are one equation, `timestamp = genesis time + blocks since genesis
* block time`.  So each way is described by that equation, with the words that do not exist left out.

## What is here

* `Rollup.timestamp_eq_ok_iff`, `Rollup.timestamp_eq_error_iff` — the timestamp of a block.
* `Batch.blockAt_eq_ok_iff`, `SingleBatch.block_eq_ok_iff`, `SpanBatch.blocks_eq_ok_iff` — the
  blocks of timestamps and of batches.
* `Rollup.blocks_invert_timestamp` — the two ways invert each other.
-/

set_option autoImplicit false
namespace BatchInbox

variable {c : Rollup}

/-- What does not succeed fails. -/
theorem exists_eq_error_iff {ε α : Type} {x : Except ε α} :
    (∃ e, x = .error e) ↔ ∀ a, x ≠ .ok a := by
  cases x with
  | error e => exact iff_of_true ⟨e, rfl⟩ nofun
  | ok a => exact iff_of_false (fun ⟨e, h⟩ => by cases h) fun h => h a rfl

/-! ## From blocks to timestamps -/

theorem Word.sub?_eq_none {a b : Word} : Word.sub? a b = none ↔ a < b := by
  rw [sub?, ← UInt64.not_le]
  split <;> simp [*]

/-- A product and a sum fit if the whole does: a product that does not fit is too large already. -/
theorem Word.bind_mul?_add? (a b d : Word) :
    (Word.mul? a b).bind (Word.add? · d) = Word.ofNat? (a.toNat * b.toNat + d.toNat) := by
  rw [mul?, ofNat?]
  split
  · rename_i hfits
    have hproduct : (a.toNat * b.toNat).toUInt64.toNat = a.toNat * b.toNat :=
      UInt64.toNat_ofNat_of_lt hfits
    rw [Option.bind_some, add?, hproduct]
  · rename_i hlarge
    rw [Option.bind_none, eq_comm, ofNat?_eq_none]
    omega

namespace Rollup

/-- The timestamp of a block as a number. -/
theorem timestamp_eq_ok_iff {n t : Word} :
    c.timestamp n = .ok t ↔ c.genesisBlock ≤ n ∧
      t.toNat = (n.toNat - c.genesisBlock.toNat) * c.blockTime.toNat + c.genesisTime.toNat := by
  rw [timestamp]
  split
  · rename_i hoffset
    exact iff_of_false nofun fun h => UInt64.not_le.2 (Word.sub?_eq_none.1 hoffset) h.1
  · rename_i offset hoffset
    have hsum := Word.sub?_eq_some.1 hoffset
    have hle : c.genesisBlock ≤ n := UInt64.le_iff_toNat_le.2 (by omega)
    rw [hsum, Nat.add_sub_cancel_left, and_iff_right hle, ← Word.ofNat?_eq_some,
      Word.bind_mul?_add?]
    split <;> simp [*]

/-- A block from genesis on has a timestamp, unless that is too large for a word. -/
theorem timestamp_eq_error_iff {n : Word} (hn : c.genesisBlock ≤ n) :
    (∃ e, c.timestamp n = .error e) ↔ UInt64.size ≤
      (n.toNat - c.genesisBlock.toNat) * c.blockTime.toNat + c.genesisTime.toNat := by
  rw [exists_eq_error_iff, ← Word.ofNat?_eq_none, Option.eq_none_iff_forall_ne_some]
  simp only [ne_eq, timestamp_eq_ok_iff, hn, true_and, Word.ofNat?_eq_some]

end Rollup

/-! ## From timestamps to blocks -/

section
variable (hc : 0 < c.blockTime)
include hc

/-- The block of a timestamp is the one that lies so many block times behind genesis. -/
theorem Batch.blockAt_eq_ok_iff {offset n : Word} :
    Batch.blockAt c offset = .ok n ↔ c.genesisBlock ≤ n ∧
      offset.toNat = (n.toNat - c.genesisBlock.toNat) * c.blockTime.toNat := by
  have hpos : 0 < c.blockTime.toNat := UInt64.lt_iff_toNat_lt.1 hc
  rw [blockAt, UInt64.le_iff_toNat_le]
  by_cases haligned : offset % c.blockTime = 0
  · have hdvd : c.blockTime.toNat ∣ offset.toNat := by
      rw [← UInt64.toNat_inj, UInt64.toNat_mod] at haligned
      exact Nat.dvd_of_mod_eq_zero haligned
    obtain ⟨k, hk⟩ := hdvd
    have hquotient : (offset / c.blockTime).toNat = k := by
      rw [UInt64.toNat_div, hk, Nat.mul_div_cancel_left k hpos]
    have hblocks : offset.toNat = (n.toNat - c.genesisBlock.toNat) * c.blockTime.toNat ↔
        k = n.toNat - c.genesisBlock.toNat := by
      rw [hk, Nat.mul_comm, Nat.mul_left_inj hpos.ne']
    rw [if_neg (not_not_intro haligned), hblocks]
    split
    · rename_i hadd
      have hnone := Word.ofNat?_eq_none.1 hadd
      have hlt := n.toNat_lt
      rw [hquotient, UInt64.size] at hnone
      exact iff_of_false nofun fun h => by omega
    · rename_i block hadd
      have hsum := Word.add?_eq_some.1 hadd
      rw [hquotient] at hsum
      rw [Except.ok.injEq, ← UInt64.toNat_inj]
      omega
  · rw [if_pos haligned]
    refine iff_of_false nofun fun h => haligned ?_
    rw [← UInt64.toNat_inj, UInt64.toNat_mod, h.2]
    exact Nat.mul_mod_left _ _

/-- A single batch stands for the block that has its timestamp. -/
theorem SingleBatch.block_eq_ok_iff {b : SingleBatch} {n : Word} :
    b.block c = .ok n ↔ c.timestamp n = .ok b.timestamp := by
  rw [block, Rollup.timestamp_eq_ok_iff]
  split
  · rename_i hoffset
    have hlt := UInt64.lt_iff_toNat_lt.1 (Word.sub?_eq_none.1 hoffset)
    exact iff_of_false nofun fun h => by omega
  · rename_i offset hoffset
    have hsum := Word.sub?_eq_some.1 hoffset
    rw [Batch.blockAt_eq_ok_iff hc]
    refine and_congr_right fun _ => ?_
    omega

/-- A span batch stands for as many blocks as it says, from that of its timestamp on. -/
theorem SpanBatch.blocks_eq_ok_iff {b : SpanBatch} {r : BlockRange} :
    b.blocks c = .ok r ↔
      (c.genesisBlock ≤ r.first ∧ b.relTimestamp.toNat =
        (r.first.toNat - c.genesisBlock.toNat) * c.blockTime.toNat) ∧
      b.blockCount ≠ 0 ∧ r.last.toNat + 1 = r.first.toNat + b.blockCount.toNat := by
  rw [← Batch.blockAt_eq_ok_iff hc, blocks]
  cases hfirst : Batch.blockAt c b.relTimestamp with
  | error e => exact iff_of_false (fun h => by cases h) fun h => by cases h.1
  | ok first =>
    rw [Except.ok.injEq]
    show (if b.blockCount = 0 then _ else _) = _ ↔ _
    split
    · rename_i hcount
      exact iff_of_false (fun h => by cases h) fun h => h.2.1 hcount
    · rename_i hcount
      have hpos : 0 < b.blockCount.toNat :=
        Nat.pos_of_ne_zero fun hzero => hcount (UInt64.toNat_inj.1 hzero)
      have hpred : (b.blockCount - 1).toNat = b.blockCount.toNat - 1 :=
        UInt64.toNat_sub_of_le _ _ (UInt64.le_iff_toNat_le.2 hpos)
      rw [and_iff_right hcount]
      cases hlast : Word.add? first (b.blockCount - 1) with
      | none =>
        have hnone := Word.ofNat?_eq_none.1 hlast
        have hlt := r.last.toNat_lt
        rw [hpred, UInt64.size] at hnone
        refine iff_of_false (fun h => by cases h) ?_
        rintro ⟨rfl, h⟩
        omega
      | some last =>
        have hsum := Word.add?_eq_some.1 hlast
        rw [hpred] at hsum
        constructor
        · intro h
          cases h
          exact ⟨rfl, show last.toNat + 1 = first.toNat + b.blockCount.toNat by omega⟩
        · rintro ⟨rfl, h⟩
          obtain rfl : last = r.last := UInt64.toNat_inj.1 (by omega)
          rfl

/-- A span batch stands for no blocks if its timestamp is between blocks, if it has none, or if its
first or last block has no number. -/
theorem SpanBatch.blocks_eq_error_iff {b : SpanBatch} :
    (∃ e, b.blocks c = .error e) ↔
      ¬ c.blockTime.toNat ∣ b.relTimestamp.toNat ∨ b.blockCount = 0 ∨
        UInt64.size ≤ c.genesisBlock.toNat + b.relTimestamp.toNat / c.blockTime.toNat ∨
        UInt64.size ≤ c.genesisBlock.toNat + b.relTimestamp.toNat / c.blockTime.toNat +
          (b.blockCount.toNat - 1) := by
  have hpos : 0 < c.blockTime.toNat := UInt64.lt_iff_toNat_lt.1 hc
  rw [exists_eq_error_iff, ← not_iff_not]
  simp only [not_forall, not_not, not_or, Nat.not_le, ne_eq]
  constructor
  · rintro ⟨r, hr⟩
    obtain ⟨⟨hgenesis, htime⟩, hcount, hlast⟩ := (blocks_eq_ok_iff hc).1 hr
    have hle := UInt64.le_iff_toNat_le.1 hgenesis
    have hfirst := r.first.toNat_lt
    have hlt := r.last.toNat_lt
    rw [htime, Nat.mul_div_cancel _ hpos, UInt64.size]
    exact ⟨Nat.dvd_mul_left _ _, hcount, by omega, by omega⟩
  · rintro ⟨⟨k, hk⟩, hcount, hfirst, hlast⟩
    rw [hk, Nat.mul_div_cancel_left k hpos] at hfirst hlast
    have hne : b.blockCount.toNat ≠ 0 := fun hzero => hcount (UInt64.toNat_inj.1 hzero)
    refine ⟨⟨(c.genesisBlock.toNat + k).toUInt64,
      (c.genesisBlock.toNat + k + (b.blockCount.toNat - 1)).toUInt64⟩, (blocks_eq_ok_iff hc).2 ?_⟩
    have hfirst' : (c.genesisBlock.toNat + k).toUInt64.toNat = c.genesisBlock.toNat + k :=
      UInt64.toNat_ofNat_of_lt hfirst
    have hlast' : (c.genesisBlock.toNat + k + (b.blockCount.toNat - 1)).toUInt64.toNat =
        c.genesisBlock.toNat + k + (b.blockCount.toNat - 1) := UInt64.toNat_ofNat_of_lt hlast
    rw [UInt64.le_iff_toNat_le, hfirst', hlast', hk, Nat.add_sub_cancel_left, Nat.mul_comm]
    exact ⟨⟨Nat.le_add_right _ _, rfl⟩, hcount, by omega⟩

end

/-! ## Timestamps since genesis -/

/-- The timestamps of the blocks of a batch lie one block time apart. -/
theorem SpanBatch.getElem?_relativeTimestamps {b : SpanBatch} {i : Word} (hi : i < b.blockCount)
    (blockTime : Word) : (b.relativeTimestamps blockTime)[i.toNat]? =
      some (Word.addSat b.relTimestamp (Word.mulSat i blockTime)) := by
  have hlt := UInt64.lt_iff_toNat_lt.1 hi
  simp [relativeTimestamps, hlt]

/-- **Blocks and timestamps invert each other.**  A single batch stands for a block exactly if it
has the timestamp of that block.  A span batch that stands for blocks stands for as many as it says,
and has their timestamps, counted from genesis; a block of it is without one only if that is too
large for a word.  And it stands for blocks unless it begins between two of them, is empty, or would
go on past the largest word. -/
theorem Rollup.blocks_invert_timestamp (hc : 0 < c.blockTime) :
    (∀ (b : SingleBatch) (n : Word), b.block c = .ok n ↔ c.timestamp n = .ok b.timestamp) ∧
    (∀ (b : SpanBatch) (r : BlockRange), b.blocks c = .ok r →
      (r.first ≤ r.last ∧ r.last.toNat - r.first.toNat + 1 = b.blockCount.toNat) ∧
      ∀ i : Word, i < b.blockCount →
        (∀ t, c.timestamp (r.first + i) = .ok t → c.genesisTime ≤ t ∧
          (b.relativeTimestamps c.blockTime)[i.toNat]? = some (t - c.genesisTime)) ∧
        ((∃ e, c.timestamp (r.first + i) = .error e) ↔ UInt64.size ≤
          b.relTimestamp.toNat + i.toNat * c.blockTime.toNat + c.genesisTime.toNat)) ∧
    ∀ b : SpanBatch, (∃ e, b.blocks c = .error e) ↔
      ¬ c.blockTime.toNat ∣ b.relTimestamp.toNat ∨ b.blockCount = 0 ∨
        UInt64.size ≤ c.genesisBlock.toNat + b.relTimestamp.toNat / c.blockTime.toNat ∨
        UInt64.size ≤ c.genesisBlock.toNat + b.relTimestamp.toNat / c.blockTime.toNat +
          (b.blockCount.toNat - 1) := by
  refine ⟨fun b n => SingleBatch.block_eq_ok_iff hc, fun b r hr => ?_,
    fun b => SpanBatch.blocks_eq_error_iff hc⟩
  obtain ⟨⟨hgenesis, htime⟩, hcount, hlast⟩ := (SpanBatch.blocks_eq_ok_iff hc).1 hr
  have hle := UInt64.le_iff_toNat_le.1 hgenesis
  have hne : b.blockCount.toNat ≠ 0 := fun hzero => hcount (UInt64.toNat_inj.1 hzero)
  refine ⟨⟨UInt64.le_iff_toNat_le.2 (by omega), by omega⟩, fun i hi => ?_⟩
  have hlt := UInt64.lt_iff_toNat_lt.1 hi
  have hlast' := r.last.toNat_lt
  have hadd : (r.first + i).toNat = r.first.toNat + i.toNat := by
    rw [UInt64.toNat_add, Nat.mod_eq_of_lt (by omega)]
  have hn : c.genesisBlock ≤ r.first + i := UInt64.le_iff_toNat_le.2 (by omega)
  -- the block's timestamp, without the genesis time, is that of the batch and `i` block times more
  have helapsed : ((r.first + i).toNat - c.genesisBlock.toNat) * c.blockTime.toNat =
      b.relTimestamp.toNat + i.toNat * c.blockTime.toNat := by
    rw [hadd, Nat.sub_add_comm hle, Nat.add_mul, ← htime]
  constructor
  · intro t ht
    obtain ⟨-, htimestamp⟩ := Rollup.timestamp_eq_ok_iff.1 ht
    rw [helapsed] at htimestamp
    have hgenesisTime : c.genesisTime ≤ t := UInt64.le_iff_toNat_le.2 (by omega)
    refine ⟨hgenesisTime, ?_⟩
    have htlt := t.toNat_lt
    rw [SpanBatch.getElem?_relativeTimestamps hi, Option.some.injEq, ← UInt64.toNat_inj,
      Word.toNat_addSat, Word.toNat_mulSat, UInt64.toNat_sub_of_le _ _ hgenesisTime, UInt64.size]
    omega
  · rw [Rollup.timestamp_eq_error_iff hn, helapsed]

/-! ### An example

A chain that ends soon after its genesis: its last block but one is the last that has a
timestamp. -/

/-- Genesis is three blocks before the largest word, and five seconds before the largest time. -/
def lateGenesis : Rollup :=
  .canonical 901 900 0xfffffffffffffffc 0xfffffffffffffffa 2 "" ""

/-- The blocks behind genesis, up to the largest word. -/
def lateBatch : SpanBatch := ⟨2, 0, BytesN.zero 20, BytesN.zero 20, 3, [0], [0, 0, 0], []⟩

theorem Rollup.blocks_invert_timestamp_lateGenesis :
    (0 < lateGenesis.blockTime ∧
      lateBatch.blocks lateGenesis = .ok ⟨0xfffffffffffffffd, 0xffffffffffffffff⟩ ∧
      lateGenesis.timestamp (0xfffffffffffffffd + 1) = .ok 0xfffffffffffffffe) ∧
    (lateBatch.relativeTimestamps 2)[1]? = some (0xfffffffffffffffe - 0xfffffffffffffffa) ∧
    (∃ e, lateGenesis.timestamp (0xfffffffffffffffd + 2) = .error e) ∧
    ∃ e, SpanBatch.blocks { lateBatch with blockCount := 4 } lateGenesis = .error e := by
  have hpos : 0 < lateGenesis.blockTime := by decide
  have hblocks : lateBatch.blocks lateGenesis = .ok ⟨0xfffffffffffffffd, 0xffffffffffffffff⟩ := by
    decide
  have htime : lateGenesis.timestamp (0xfffffffffffffffd + 1) = .ok 0xfffffffffffffffe := by decide
  obtain ⟨-, hspan, herror⟩ := Rollup.blocks_invert_timestamp hpos
  obtain ⟨-, htimestamps⟩ := hspan lateBatch _ hblocks
  refine ⟨⟨hpos, hblocks, htime⟩, ((htimestamps 1 (by decide)).1 _ htime).2,
    (htimestamps 2 (by decide)).2.2 (by decide), (herror _).2 (by decide)⟩

end BatchInbox
