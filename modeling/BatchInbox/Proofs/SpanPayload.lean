import BatchInbox.Batch.Span
import BatchInbox.Proofs.Delimited
import BatchInbox.Proofs.Effect
import Mathlib.Algebra.GroupWithZero.Nat

/-!
# Span batches and their payloads

A varint of ten groups has room for seventy bits, and a word for sixty-four.  The reader takes the low
bits of such a number and drops the others.  So a payload may hold numbers that do not fit into a
word, and the batch that is read from it says less than the payload does.

This is the only thing that gets lost.  A payload is read if and only if its parts agree with each
other and with the limits, and each number in it is written in the shortest way; and what is read is
the payload with its numbers cut to words.

## What is here

* `Varint.decode?_eq_some_iff` — which byte strings begin with a varint.
* `SpanPayload` — a span batch with numbers of any size; `SpanPayload.batch` cuts them to words, and
  `SpanPayload.layout` are its parts.
* `SpanBatch.WellFormed` — the parts agree.
* `SpanBatch.delimits_decode` — the reader stops where the transactions begin.
* `SpanBatch.decode_eq_ok_iff` — which payloads are read, and what is read from them.
* `SpanBatch.decode_encode` — a batch that keeps to the limits is read back.
* `SpanBatch.encode_of_decode` — a payload that is read is written as it was, unless some number in
  it overflows; `SpanBatch.decode_overflowing` is one that is not.
-/

set_option autoImplicit false
namespace BatchInbox

/-! ## Varints -/

namespace Varint

/-- A number of at most ten groups is below this. -/
def bound : Nat := Nat.pow 128 maxLength

/-- A number of one group is read.  Zero is read only as a number of its own, not as the high groups
of another. -/
theorem decodeNat?_small {room n : Nat} (h : n < 128) {isFirst : Bool}
    (hfirst : isFirst = false → n ≠ 0) (rest : Bytes) :
    decodeNat? (room + 1) isFirst (encodeNat n ++ rest) = some (n, rest) := by
  have hbyte : n.toUInt8.toNat = n := by
    simp
    omega
  rw [encodeNat, if_pos h, List.cons_append, List.nil_append, decodeNat?, hbyte, if_pos h, if_neg]
  simp only [Bool.and_eq_true, decide_eq_true_eq, Bool.not_eq_true', not_and]
  intro hzero hnot
  rw [hzero] at hbyte
  exact hfirst hnot hbyte.symm

/-- A number that fits into the groups allowed is read, whatever follows it. -/
theorem decodeNat?_append {room n : Nat} (h : n < Nat.pow 128 (room + 1)) {isFirst : Bool}
    (hfirst : isFirst = false → n ≠ 0) (rest : Bytes) :
    decodeNat? (room + 1) isFirst (encodeNat n ++ rest) = some (n, rest) := by
  induction room generalizing n isFirst with
  | zero => exact decodeNat?_small (by simpa using h) hfirst rest
  | succ room ih =>
    by_cases hsmall : n < 128
    · exact decodeNat?_small hsmall hfirst rest
    · have hbyte : (n % 128 + 128).toUInt8.toNat = n % 128 + 128 := by
        simp
        omega
      replace h : n < Nat.pow 128 (room + 1) * 128 := h
      have hhigh : decodeNat? (room + 1) false (encodeNat (n / 128) ++ rest) =
          some (n / 128, rest) :=
        ih (Nat.div_lt_of_lt_mul (by omega)) (fun _ => by omega)
      rw [encodeNat, if_neg hsmall, List.cons_append, decodeNat?, hbyte, if_neg (by omega), hhigh]
      simp only [Option.some.injEq, Prod.mk.injEq, and_true]
      omega

/-- A number that is read fits into the groups allowed, and is written in the shortest way. -/
theorem eq_append_of_decodeNat? {room n : Nat} {isFirst : Bool} {bytes rest : Bytes}
    (h : decodeNat? room isFirst bytes = some (n, rest)) :
    n < Nat.pow 128 room ∧ (isFirst = false → n ≠ 0) ∧ bytes = encodeNat n ++ rest := by
  induction room generalizing isFirst n bytes with
  | zero => exact absurd h nofun
  | succ room ih =>
    cases bytes with
    | nil => exact absurd h nofun
    | cons b bytes =>
      have hroom : 0 < Nat.pow 128 room := Nat.pow_pos (by decide)
      have hpow : Nat.pow 128 (room + 1) = Nat.pow 128 room * 128 := rfl
      rw [decodeNat?] at h
      split at h
      · rename_i hsmall
        split at h
        · exact absurd h nofun
        · rename_i hfirst
          obtain ⟨rfl, rfl⟩ : b.toNat = n ∧ bytes = rest := by simpa using h
          have hb : b.toNat.toUInt8 = b := by simp
          refine ⟨by omega, fun hnot hzero => hfirst ?_, ?_⟩
          · have hb0 : b = 0 := UInt8.toNat_inj.1 hzero
            simp [hb0, hnot]
          · rw [encodeNat, if_pos hsmall, hb]
            rfl
      · rename_i hlarge
        split at h
        · exact absurd h nofun
        · rename_i high rest' hhigh
          obtain ⟨rfl, rfl⟩ : b.toNat % 128 + 128 * high = n ∧ rest' = rest := by simpa using h
          obtain ⟨hlt, hne, rfl⟩ := ih hhigh
          have hne := hne rfl
          have hb := b.toNat_lt
          have hlow : (b.toNat % 128 + 128 * high) % 128 + 128 = b.toNat := by omega
          have hrest : (b.toNat % 128 + 128 * high) / 128 = high := by omega
          have hwritten : encodeNat (b.toNat % 128 + 128 * high) = b :: encodeNat high := by
            rw [encodeNat, if_neg (by omega), hlow, hrest]
            simp
          exact ⟨by omega, fun _ => by omega, by rw [hwritten, List.cons_append]⟩

/-- **The byte strings that begin with a varint** begin with the shortest form of a number of at most
ten groups.  Of this number the bits are read that a word has room for. -/
theorem decode?_eq_some_iff {bytes rest : Bytes} {w : Word} :
    decode? bytes = some (w, rest) ↔
      ∃ n < bound, n.toUInt64 = w ∧ bytes = encodeNat n ++ rest := by
  rw [decode?, Option.map_eq_some_iff]
  constructor
  · rintro ⟨⟨n, behind⟩, hread, hw⟩
    obtain ⟨hn, -, hbytes⟩ := eq_append_of_decodeNat? hread
    obtain ⟨rfl, rfl⟩ := Prod.mk.inj hw
    exact ⟨n, hn, rfl, hbytes⟩
  · rintro ⟨n, hn, rfl, rfl⟩
    exact ⟨(n, rest), decodeNat?_append hn (fun h => absurd h (by decide)) rest, rfl⟩

/-- Two varints that stand in front of something are told apart. -/
theorem encodeNat_append_inj {m n : Nat} {rest rest' : Bytes}
    (h : encodeNat m ++ rest = encodeNat n ++ rest') : m = n ∧ rest = rest' := by
  have hread : ∀ k ≤ m + n, ∀ rest,
      decodeNat? (m + n + 1) true (encodeNat k ++ rest) = some (k, rest) := fun k hk rest => by
    have hroom : m + n + 1 < Nat.pow 128 (m + n + 1) := Nat.lt_pow_self (by decide)
    exact decodeNat?_append (by omega) (by simp) rest
  have hm := hread m (Nat.le_add_right m n) rest
  rw [h, hread n (Nat.le_add_left n m)] at hm
  simpa [eq_comm] using hm

/-- A number that is cut short is not read. -/
theorem decode?_of_isCutShort {n : Nat} {cut : Bytes} (h : cut.IsCutShort (encodeNat n)) :
    decode? cut = none := by
  obtain ⟨missing, hmissing, happend⟩ := h
  cases hread : decode? cut with
  | none => rfl
  | some read =>
    -- what is read would be the whole number, with the missing bytes behind it
    obtain ⟨m, -, -, rfl⟩ := decode?_eq_some_iff.1 hread
    have hwhole : encodeNat m ++ (read.2 ++ missing) = encodeNat n ++ [] := by
      simpa using happend
    obtain ⟨-, hnil⟩ := encodeNat_append_inj hwhole
    exact absurd (List.append_eq_nil_iff.1 hnil).2 hmissing

end Varint

/-! ## Payloads -/

/-- A span batch as it stands in a payload, with numbers that a word may have no room for. -/
structure SpanPayload where
  relTimestamp : Nat
  l1OriginNumber : Nat
  parentCheck : BytesN 20
  l1OriginCheck : BytesN 20
  blockCount : Nat
  originBits : Bytes
  txCounts : List Nat
  txs : Bytes
  deriving DecidableEq

namespace SpanPayload

/-- The payload as bytes. -/
def encode (p : SpanPayload) : Bytes :=
  Varint.encodeNat p.relTimestamp ++ Varint.encodeNat p.l1OriginNumber ++ p.parentCheck.toList ++
    p.l1OriginCheck.toList ++ Varint.encodeNat p.blockCount ++ p.originBits ++
    p.txCounts.flatMap Varint.encodeNat ++ p.txs

/-- The batch that is left if numbers are cut to words. -/
def batch (p : SpanPayload) : SpanBatch :=
  ⟨p.relTimestamp.toUInt64, p.l1OriginNumber.toUInt64, p.parentCheck, p.l1OriginCheck,
    p.blockCount.toUInt64, p.originBits, p.txCounts.map Nat.toUInt64, p.txs⟩

/-- The parts of a payload in front of the transactions.  A number that is cut short is no varint; of
the other parts too few bytes are left. -/
def layout (p : SpanPayload) : Layout Batch.Error :=
  [(.varint .relTimestamp, Varint.encodeNat p.relTimestamp),
    (.varint .l1OriginNumber, Varint.encodeNat p.l1OriginNumber),
    (.truncated .parentCheck, p.parentCheck.toList),
    (.truncated .l1OriginCheck, p.l1OriginCheck.toList),
    (.varint .blockCount, Varint.encodeNat p.blockCount),
    (.truncated .originBits, p.originBits)] ++
  p.txCounts.map fun n => (.varint .blockTxCount, Varint.encodeNat n)

theorem bytes_layout (p : SpanPayload) : p.layout.bytes ++ p.txs = p.encode := by
  simp [layout, Layout.bytes, encode, List.flatMap_map]

/-- All numbers of the payload. -/
def numbers (p : SpanPayload) : List Nat :=
  p.relTimestamp :: p.l1OriginNumber :: p.blockCount :: p.txCounts

/-- The numbers have no more groups than a reader accepts. -/
def IsReadable (p : SpanPayload) : Prop := ∀ n ∈ p.numbers, n < Varint.bound

/-- No number overflows a word. -/
def Fits (p : SpanPayload) : Prop := ∀ n ∈ p.numbers, n < UInt64.size

instance (p : SpanPayload) : Decidable p.IsReadable :=
  inferInstanceAs (Decidable (∀ n ∈ p.numbers, n < Varint.bound))

instance (p : SpanPayload) : Decidable p.Fits :=
  inferInstanceAs (Decidable (∀ n ∈ p.numbers, n < UInt64.size))

theorem Fits.isReadable {p : SpanPayload} (h : p.Fits) : p.IsReadable :=
  fun n hn => Nat.lt_trans (h n hn) (by decide)

end SpanPayload

namespace SpanBatch

/-- The payload that a batch is written to. -/
def payload (b : SpanBatch) : SpanPayload :=
  ⟨b.relTimestamp.toNat, b.l1OriginNumber.toNat, b.parentCheck, b.l1OriginCheck, b.blockCount.toNat,
    b.originBits, b.txCounts.map UInt64.toNat, b.txs⟩

theorem encode_payload (b : SpanBatch) : b.payload.encode = b.encode := by
  simp only [SpanPayload.encode, payload, encode, List.flatMap_map]
  rfl

theorem batch_payload (b : SpanBatch) : b.payload.batch = b := by
  have hword : ∀ w : Word, w.toNat.toUInt64 = w := fun w => by simp
  simp only [SpanPayload.batch, payload, hword, List.map_map, Function.comp_def, List.map_id']

theorem fits_payload (b : SpanBatch) : b.payload.Fits := by
  intro n hn
  obtain ⟨w, rfl⟩ : ∃ w : Word, w.toNat = n := by
    simp only [SpanPayload.numbers, payload, List.mem_cons, List.mem_map] at hn
    rcases hn with rfl | rfl | rfl | ⟨w, -, rfl⟩ <;> exact ⟨_, rfl⟩
  exact w.toNat_lt

end SpanBatch

namespace SpanPayload

/-- If no number overflows, the batch says all that the payload does. -/
theorem payload_batch {p : SpanPayload} (h : p.Fits) : p.batch.payload = p := by
  have hword : ∀ n ∈ p.numbers, n.toUInt64.toNat = n := fun n hn => by
    have hlt := h n hn
    simp only [UInt64.size] at hlt
    simp
    omega
  obtain ⟨hrel, horigin, hblocks, hcounts⟩ :
      p.relTimestamp.toUInt64.toNat = p.relTimestamp ∧
        p.l1OriginNumber.toUInt64.toNat = p.l1OriginNumber ∧
        p.blockCount.toUInt64.toNat = p.blockCount ∧
        ∀ n ∈ p.txCounts, n.toUInt64.toNat = n := by
    simpa only [numbers, List.forall_mem_cons] using hword
  have hmap : (p.txCounts.map Nat.toUInt64).map UInt64.toNat = p.txCounts := by
    rw [List.map_map]
    exact (List.map_congr_left hcounts).trans (List.map_id _)
  simp only [batch, SpanBatch.payload, hrel, horigin, hblocks, hmap]

/-- Two rows of as many varints are told apart. -/
theorem flatMap_encodeNat_inj {ms ns : List Nat} {rest rest' : Bytes}
    (hlength : ms.length = ns.length)
    (h : ms.flatMap Varint.encodeNat ++ rest = ns.flatMap Varint.encodeNat ++ rest') :
    ms = ns ∧ rest = rest' := by
  induction ms generalizing ns with
  | nil =>
    obtain rfl := List.length_eq_zero_iff.1 hlength.symm
    exact ⟨rfl, h⟩
  | cons m ms ih =>
    obtain ⟨n, ns, rfl⟩ := List.exists_cons_of_length_eq_add_one hlength.symm
    simp only [List.flatMap_cons, List.append_assoc] at h
    obtain ⟨rfl, hrest⟩ := Varint.encodeNat_append_inj h
    obtain ⟨rfl, rfl⟩ := ih (Nat.succ.inj hlength) hrest
    exact ⟨rfl, rfl⟩

/-- **Two payloads with as many blocks** are told apart by their bytes. -/
theorem eq_of_encode_eq {p q : SpanPayload} (hbits : p.originBits.length = q.originBits.length)
    (hcounts : p.txCounts.length = q.txCounts.length) (h : p.encode = q.encode) : p = q := by
  simp only [encode, List.append_assoc] at h
  obtain ⟨hrel, h⟩ := Varint.encodeNat_append_inj h
  obtain ⟨horigin, h⟩ := Varint.encodeNat_append_inj h
  obtain ⟨hparent, h⟩ := List.append_inj h (by rw [BytesN.length_toList, BytesN.length_toList])
  obtain ⟨hcheck, h⟩ := List.append_inj h (by rw [BytesN.length_toList, BytesN.length_toList])
  obtain ⟨hblocks, h⟩ := Varint.encodeNat_append_inj h
  obtain ⟨horiginBits, h⟩ := List.append_inj h hbits
  obtain ⟨htxCounts, htxs⟩ := flatMap_encodeNat_inj hcounts h
  cases p
  cases q
  simp only [mk.injEq]
  exact ⟨hrel, horigin, BytesN.ext hparent, BytesN.ext hcheck, hblocks, horiginBits, htxCounts, htxs⟩

end SpanPayload

/-! ## Reading -/

namespace SpanBatch

/-- The parts agree with the number of blocks, and keep to the limits. -/
structure WellFormed (b : SpanBatch) : Prop where
  one_le_blockCount : 1 ≤ b.blockCount.toNat
  blockCount_le : b.blockCount.toNat ≤ maxElements
  length_originBits : b.originBits.length = originBytes b.blockCount.toNat
  length_txCounts : b.txCounts.length = b.blockCount.toNat
  sum_txCounts_le : (b.txCounts.map UInt64.toNat).sum ≤ maxElements

instance (b : SpanBatch) : Decidable b.WellFormed :=
  decidable_of_iff
    (1 ≤ b.blockCount.toNat ∧ b.blockCount.toNat ≤ maxElements ∧
      b.originBits.length = originBytes b.blockCount.toNat ∧
      b.txCounts.length = b.blockCount.toNat ∧ (b.txCounts.map UInt64.toNat).sum ≤ maxElements)
    ⟨fun ⟨h₁, h₂, h₃, h₄, h₅⟩ => ⟨h₁, h₂, h₃, h₄, h₅⟩,
      fun ⟨h₁, h₂, h₃, h₄, h₅⟩ => ⟨h₁, h₂, h₃, h₄, h₅⟩⟩

theorem readNumber_eq_ok_iff {field : Batch.SpanField} {bytes rest : Bytes} {w : Word} :
    readNumber field bytes = .ok (w, rest) ↔
      ∃ n < Varint.bound, n.toUInt64 = w ∧ bytes = Varint.encodeNat n ++ rest := by
  rw [← Varint.decode?_eq_some_iff, readNumber]
  cases Varint.decode? bytes <;> simp

theorem delimits_readNumber (field : Batch.SpanField) {n : Nat} (h : n < Varint.bound) :
    Delimits (readNumber field) [(.varint field, Varint.encodeNat n)]
      fun rest => (n.toUInt64, rest) :=
  .single (fun rest => readNumber_eq_ok_iff.2 ⟨n, h, rfl, rfl⟩) fun cut hcut => by
    rw [readNumber, Varint.decode?_of_isCutShort hcut]

theorem readCheck_eq_ok_iff {field : Batch.SpanField} {bytes rest : Bytes} {check : BytesN 20} :
    readCheck field bytes = .ok (check, rest) ↔ bytes = check.toList ++ rest := by
  rw [readCheck]
  constructor
  · intro h
    cases hsplit : BytesN.split? 20 bytes with
    | none =>
      rw [hsplit] at h
      exact absurd h nofun
    | some read =>
      rw [hsplit] at h
      cases h
      exact BytesN.eq_append_of_split? hsplit
  · rintro rfl
    rw [BytesN.split?_append]

theorem delimits_readCheck (field : Batch.SpanField) (check : BytesN 20) :
    Delimits (readCheck field) [(.truncated field, check.toList)] fun rest => (check, rest) :=
  (check.delimits_readFront (Batch.Error.truncated field)).congr fun bytes => by
    rw [readCheck, BytesN.readFront]
    cases BytesN.split? 20 bytes <;> rfl

/-- The counts are read as long as their sum, with what was read before, keeps to the limit.  They end
where as many have been read as there are blocks. -/
theorem delimits_readCounts (acc : List Word) (total : Word) {counts : List Nat}
    (hread : ∀ n ∈ counts, n < Varint.bound)
    (h : total.toNat + ((counts.map Nat.toUInt64).map UInt64.toNat).sum ≤ maxElements) :
    Delimits (readCounts acc total counts.length)
      (counts.map fun n => (.varint .blockTxCount, Varint.encodeNat n))
      fun rest => (acc.reverse ++ counts.map Nat.toUInt64, rest) := by
  induction counts generalizing acc total with
  | nil => exact ⟨fun rest => by simp [readCounts], nofun⟩
  | cons n counts ih =>
    rw [List.forall_mem_cons] at hread
    rw [List.map_cons, List.map_cons, List.sum_cons] at h
    have htotal : (Word.addSat total n.toUInt64).toNat = total.toNat + n.toUInt64.toNat := by
      rw [Word.toNat_addSat]
      simp only [maxElements, UInt64.size] at *
      omega
    have hrest := ih (n.toUInt64 :: acc) (Word.addSat total n.toUInt64) hread.2 (by omega)
    simp only [List.reverse_cons, List.append_assoc, List.singleton_append] at hrest
    have hcounts : Delimits (fun bytes => readNumber .blockTxCount bytes >>= fun read =>
          if maxElements < (Word.addSat total read.1).toNat then
            .error (.tooManyTransactions (Word.addSat total read.1))
          else readCounts (read.1 :: acc) (Word.addSat total read.1) counts.length read.2)
        ((n :: counts).map fun n => (.varint .blockTxCount, Varint.encodeNat n))
        fun rest => (acc.reverse ++ (n :: counts).map Nat.toUInt64, rest) := by
      refine (delimits_readNumber .blockTxCount hread.1).bind (hrest.congr fun bytes => if_neg ?_)
      simp only
      omega
    refine hcounts.congr fun bytes => ?_
    rw [List.length_cons, readCounts]
    cases readNumber .blockTxCount bytes <;> rfl

/-- Counts that are read are written one after the other, and their sum keeps to the limit. -/
theorem readCounts_eq_ok {acc counts : List Word} {total : Word} {count : Nat} {bytes rest : Bytes}
    (h : readCounts acc total count bytes = .ok (counts, rest)) (htotal : total.toNat ≤ maxElements) :
    ∃ ns : List Nat, (∀ n ∈ ns, n < Varint.bound) ∧ ns.length = count ∧
      counts = acc.reverse ++ ns.map Nat.toUInt64 ∧
      bytes = ns.flatMap Varint.encodeNat ++ rest ∧
      total.toNat + ((ns.map Nat.toUInt64).map UInt64.toNat).sum ≤ maxElements := by
  induction count generalizing acc total bytes with
  | zero =>
    cases h
    exact ⟨[], nofun, rfl, by simp, rfl, by simpa using htotal⟩
  | succ count ih =>
    rw [readCounts] at h
    split at h
    · exact absurd h nofun
    · rename_i w behind hnumber
      dsimp only at h
      split at h
      · exact absurd h nofun
      · rename_i hlimit
        obtain ⟨n, hn, rfl, rfl⟩ := readNumber_eq_ok_iff.1 hnumber
        have hsum : (Word.addSat total n.toUInt64).toNat = total.toNat + n.toUInt64.toNat := by
          rw [Word.toNat_addSat] at hlimit ⊢
          simp only [maxElements, UInt64.size] at *
          omega
        obtain ⟨ns, hns, rfl, rfl, rfl, hle⟩ := ih h (Nat.not_lt.1 hlimit)
        refine ⟨n :: ns, List.forall_mem_cons.2 ⟨hn, hns⟩, rfl, by simp, ?_, ?_⟩
        · rw [List.flatMap_cons, List.append_assoc]
        · rw [List.map_cons, List.map_cons, List.sum_cons]
          omega

/-- **The reader of a batch** stops where the transactions begin, and gives the batch of the payload if
its parts agree. -/
theorem delimits_decode {p : SpanPayload} (h : p.IsReadable) (hb : p.batch.WellFormed) :
    Delimits decode p.layout fun txs => { p.batch with txs } := by
  obtain ⟨hrel, horigin, hblocks, hcounts⟩ :
      p.relTimestamp < Varint.bound ∧ p.l1OriginNumber < Varint.bound ∧
        p.blockCount < Varint.bound ∧ ∀ n ∈ p.txCounts, n < Varint.bound := by
    simpa only [SpanPayload.IsReadable, SpanPayload.numbers, List.forall_mem_cons] using h
  have hlimits : (decide (p.blockCount.toUInt64 = 0) ||
      decide (maxElements < p.blockCount.toUInt64.toNat)) = false := by
    have hone : 1 ≤ p.blockCount.toUInt64.toNat := hb.one_le_blockCount
    have hle : p.blockCount.toUInt64.toNat ≤ maxElements := hb.blockCount_le
    rw [Bool.or_eq_false_iff, decide_eq_false_iff_not, decide_eq_false_iff_not,
      ← UInt64.toNat_inj]
    exact ⟨Nat.ne_of_gt hone, by omega⟩
  have hlength : p.txCounts.length = p.blockCount.toUInt64.toNat := by
    rw [← List.length_map]
    exact hb.length_txCounts
  have hbits : p.originBits.length = originBytes p.blockCount.toUInt64.toNat := hb.length_originBits
  have hsum : (0 : Word).toNat + ((p.txCounts.map Nat.toUInt64).map UInt64.toNat).sum ≤
      maxElements := by
    rw [UInt64.toNat_zero, Nat.zero_add]
    exact hb.sum_txCounts_le
  have hread := delimits_readCounts [] 0 hcounts hsum
  rw [hlength] at hread
  have hbehind : Delimits (fun bytes => do
      let origins ← bytes.readFront (Batch.Error.truncated .originBits)
        (originBytes p.blockCount.toUInt64.toNat)
      let counts ← readCounts [] 0 p.blockCount.toUInt64.toNat origins.2
      return { p.batch with originBits := origins.1, txCounts := counts.1, txs := counts.2 })
      ([(.truncated .originBits, p.originBits)] ++
        p.txCounts.map fun n => (.varint .blockTxCount, Varint.encodeNat n))
      fun txs => { p.batch with txs } := by
    refine (Bytes.delimits_readFront hbits (Batch.Error.truncated .originBits)).bind ?_
    dsimp only
    exact hread.last fun txs => rfl
  refine (delimits_readNumber .relTimestamp hrel).bind ?_
  refine (delimits_readNumber .l1OriginNumber horigin).bind ?_
  refine (delimits_readCheck .parentCheck p.parentCheck).bind ?_
  refine (delimits_readCheck .l1OriginCheck p.l1OriginCheck).bind ?_
  refine (delimits_readNumber .blockCount hblocks).bind ?_
  refine hbehind.congr fun bytes => ?_
  simp only [hlimits, Bytes.readFront, Bool.false_eq_true, if_false]
  cases bytes.split? (originBytes p.blockCount.toUInt64.toNat) <;> rfl

/-- A payload whose parts agree is read, with its numbers cut to words. -/
theorem decode_encodePayload {p : SpanPayload} (h : p.IsReadable) (hb : p.batch.WellFormed) :
    decode p.encode = .ok p.batch := by
  rw [← p.bytes_layout]
  exact (delimits_decode h hb).whole p.txs

/-- What is read is written in the payload, and its parts agree. -/
theorem exists_payload_of_decode {bytes : Bytes} {b : SpanBatch} (h : decode bytes = .ok b) :
    b.WellFormed ∧ ∃ p : SpanPayload, p.IsReadable ∧ p.batch = b ∧ p.encode = bytes := by
  rw [decode] at h
  simp only [bind_eq_ok, Prod.exists] at h
  obtain ⟨rel, bytes₁, hrel, origin, bytes₂, horigin, parent, bytes₃, hparent, check, bytes₄, hcheck,
    blocks, bytes₅, hblocks, h⟩ := h
  split at h
  · exact absurd h nofun
  · rename_i hlimits
    split at h
    · exact absurd h nofun
    · rename_i bits behind hbits
      obtain ⟨⟨counts, txs⟩, hcounts, hb⟩ := bind_eq_ok.1 h
      obtain rfl := Except.ok.inj hb
      obtain ⟨rel, hrelBound, rfl, rfl⟩ := readNumber_eq_ok_iff.1 hrel
      obtain ⟨origin, horiginBound, rfl, rfl⟩ := readNumber_eq_ok_iff.1 horigin
      obtain rfl := readCheck_eq_ok_iff.1 hparent
      obtain rfl := readCheck_eq_ok_iff.1 hcheck
      obtain ⟨blocks, hblocksBound, rfl, rfl⟩ := readNumber_eq_ok_iff.1 hblocks
      obtain ⟨rfl, hbitsLength⟩ := Bytes.split?_eq_some.1 hbits
      obtain ⟨ns, hns, hlength, rfl, rfl, hsum⟩ := readCounts_eq_ok hcounts (by decide)
      rw [Bool.or_eq_true, decide_eq_true_eq, decide_eq_true_eq, not_or] at hlimits
      refine ⟨⟨?_, Nat.not_lt.1 hlimits.2, hbitsLength, ?_, ?_⟩,
        ⟨rel, origin, parent, check, blocks, bits, ns, txs⟩, ?_, rfl, ?_⟩
      · have hpos : 0 < blocks.toUInt64 := UInt64.pos_iff_ne_zero.2 hlimits.1
        exact UInt64.lt_iff_toNat_lt.1 hpos
      · simpa using hlength
      · simpa using hsum
      · simp only [SpanPayload.IsReadable, SpanPayload.numbers, List.forall_mem_cons]
        exact ⟨hrelBound, horiginBound, hblocksBound, hns⟩
      · simp only [SpanPayload.encode, List.append_assoc]

/-- **The payloads that are read**, and what is read from them. -/
theorem decode_eq_ok_iff {bytes : Bytes} {b : SpanBatch} :
    decode bytes = .ok b ↔
      b.WellFormed ∧ ∃ p : SpanPayload, p.IsReadable ∧ p.batch = b ∧ p.encode = bytes := by
  refine ⟨exists_payload_of_decode, ?_⟩
  rintro ⟨hb, p, hp, rfl, rfl⟩
  exact decode_encodePayload hp hb

/-- A span batch that keeps to the limits is read back. -/
theorem decode_encode {b : SpanBatch} (h : b.WellFormed) : decode b.encode = .ok b :=
  decode_eq_ok_iff.2 ⟨h, b.payload, b.fits_payload.isReadable, b.batch_payload, b.encode_payload⟩

/-- Payloads of one batch are told apart by their bytes. -/
theorem payload_unique {p q : SpanPayload} (h : p.batch = q.batch) (hp : p.batch.WellFormed)
    (hencode : p.encode = q.encode) : p = q := by
  have hq : q.batch.WellFormed := h ▸ hp
  have hbits : p.originBits = q.originBits := congrArg SpanBatch.originBits h
  have hcounts : p.batch.txCounts.length = q.batch.txCounts.length := by rw [h]
  refine SpanPayload.eq_of_encode_eq (by rw [hbits]) ?_ hencode
  simpa [SpanPayload.batch] using hcounts

/-- A payload is written as it was if, and only if, its numbers fit into words. -/
theorem encode_batch_eq_iff {p : SpanPayload} (hp : p.batch.WellFormed) :
    p.batch.encode = p.encode ↔ p.Fits := by
  rw [← encode_payload]
  constructor
  · intro h
    rw [← payload_unique (batch_payload _) (by rwa [batch_payload]) h]
    exact p.batch.fits_payload
  · intro h
    rw [SpanPayload.payload_batch h]

/-- **Span batches have one encoding, if no number overflows.**  A payload that is read gives a batch
whose parts agree, and which is read back when it is written.  The payload holds one number for each
number of the batch, of at most seventy bits, of which the batch has the low ones.  The batch is written
as that payload exactly if all of them are words; and if two payloads are read as the same batch, then
one of them holds a number that is not. -/
theorem encode_of_decode {bytes : Bytes} {b : SpanBatch} (h : decode bytes = .ok b) :
    b.WellFormed ∧ decode b.encode = .ok b ∧
      (∃ p : SpanPayload, p.IsReadable ∧ p.batch = b ∧ p.encode = bytes ∧
        (∀ q : SpanPayload, q.batch = b → q.encode = bytes → q = p) ∧
        (b.encode = bytes ↔ p.Fits)) ∧
      ∀ bytes', decode bytes' = .ok b → bytes ≠ bytes' → ∃ p : SpanPayload,
        p.batch = b ∧ (p.encode = bytes ∨ p.encode = bytes') ∧ ¬ p.Fits := by
  obtain ⟨hb, p, hp, rfl, rfl⟩ := exists_payload_of_decode h
  refine ⟨hb, decode_encode hb, ⟨p, hp, rfl, rfl, fun q hq hencode => ?_,
    encode_batch_eq_iff hb⟩, fun bytes' h' hne => ?_⟩
  · exact payload_unique hq (hq ▸ hb) hencode
  · obtain ⟨-, q, -, hq, rfl⟩ := exists_payload_of_decode h'
    by_cases hfits : p.Fits
    · refine ⟨q, hq, .inr rfl, fun hfits' => hne ?_⟩
      rw [← (encode_batch_eq_iff hb).2 hfits, ← (encode_batch_eq_iff (hq ▸ hb)).2 hfits', hq]
    · exact ⟨p, rfl, .inl rfl, hfits⟩

/-- A batch for a block without transactions, ten seconds behind the genesis of the chain. -/
def emptyBlock : SpanBatch :=
  ⟨10, 5, ⟨.replicate 20 0xaa, rfl⟩, ⟨.replicate 20 0xbb, rfl⟩, 1, [0], [0], []⟩

/-- A payload with a timestamp that a word has no room for, but whose low bits are those of the
batch. -/
def latePayload : SpanPayload := { emptyBlock.payload with relTimestamp := UInt64.size + 10 }

theorem encode_of_decode_latePayload :
    decode latePayload.encode = .ok emptyBlock ∧ emptyBlock.WellFormed ∧
      decode emptyBlock.encode = .ok emptyBlock ∧
      ∃ p : SpanPayload, p.encode = latePayload.encode ∧ p.batch = emptyBlock ∧
        (emptyBlock.encode = latePayload.encode ↔ p.Fits) := by
  have hread : decode latePayload.encode = .ok emptyBlock :=
    decode_encodePayload (p := latePayload) (by decide) (by decide)
  obtain ⟨hb, hback, ⟨p, -, hbatch, hencode, -, hfits⟩, -⟩ := encode_of_decode hread
  exact ⟨hread, hb, hback, p, hencode, hbatch, hfits⟩

/-- The timestamp in this payload is written in ten groups, for a number of sixty-five bits. -/
def overflowing : Bytes :=
  .replicate 9 0x80 ++ [2, 5] ++ .replicate 20 0xaa ++ .replicate 20 0xbb ++ [1, 0, 0]

/-- **Not every payload that is read is written as it was**: here the timestamp is cut to zero, so that
two payloads are read as the same batch. -/
theorem decode_overflowing :
    decode overflowing = .ok { emptyBlock with relTimestamp := 0 } ∧
      { emptyBlock with relTimestamp := 0 }.encode ≠ overflowing ∧
      decode { emptyBlock with relTimestamp := 0 }.encode =
        .ok { emptyBlock with relTimestamp := 0 } :=
  ⟨rfl, by decide +kernel, decode_encode (by decide)⟩

end SpanBatch
end BatchInbox
