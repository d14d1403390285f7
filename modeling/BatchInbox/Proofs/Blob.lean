import BatchInbox.Blob
import Mathlib.Data.List.GetD

/-!
# A payload survives its blob

A writer spreads three bytes of every round over the first bytes of four field elements, and goes on
for as many rounds as the payload needs; a reader collects them, and stops when it has as many bytes
as the first round announced.  Both stop at the same round, and nothing is lost.

## What is here

* `Bytes.exists_resize_append_drop` — cutting and filling up byte strings.
* `readElement_append`, `readRound_append` — what was written is read, whatever follows it.
* `Blob.readRounds_append` — all rounds: the payload, with some bytes behind it that fill up the
  last round.
* `Blob.isClear_encodeAll_append` — the high bits stay clear.
* `Blob.decode_of_encode` — the round trip.
* `Blob.encode_roundTrip` — all of this in one statement.
-/

set_option autoImplicit false
namespace BatchInbox

namespace Bytes

theorem getD_take {i n : Nat} (h : i < n) (bytes : Bytes) :
    (bytes.take n).getD i 0 = bytes.getD i 0 := by
  rw [List.getD_eq_getElem?_getD, List.getElem?_take_of_lt h, ← List.getD_eq_getElem?_getD]

theorem getD_drop (n i : Nat) (bytes : Bytes) : (bytes.drop n).getD i 0 = bytes.getD (n + i) 0 := by
  rw [List.getD_eq_getElem?_getD, List.getElem?_drop, ← List.getD_eq_getElem?_getD]

theorem resize_of_le {n : Nat} {bytes : Bytes} (h : bytes.length ≤ n) :
    resize n bytes = bytes ++ List.replicate (n - bytes.length) 0 := by
  rw [resize, List.take_of_length_le h]

theorem resize_of_ge {n : Nat} {bytes : Bytes} (h : n ≤ bytes.length) :
    resize n bytes = bytes.take n := by
  rw [resize, Nat.sub_eq_zero_of_le h, List.replicate_zero, List.append_nil]

/-- What a byte string begins with, once it is filled up, followed by the rest of it, is the byte
string with something behind it. -/
theorem exists_resize_append_drop (n : Nat) (bytes : Bytes) :
    ∃ pad, ∀ tail, resize n bytes ++ (bytes.drop n ++ tail) = bytes ++ (pad ++ tail) := by
  rcases Nat.le_total bytes.length n with h | h
  · refine ⟨List.replicate (n - bytes.length) 0, fun tail => ?_⟩
    rw [resize_of_le h, List.drop_of_length_le h, List.nil_append, List.append_assoc]
  · refine ⟨[], fun tail => ?_⟩
    rw [resize_of_ge h, List.nil_append, ← List.append_assoc, List.take_append_drop]

end Bytes

namespace Blob

/-! ## Elements and rounds -/

/-- An element whose high bits are clear is read. -/
theorem readElement_append {index : Nat} {first : UInt8} {run tail : Bytes} (hf : first < 64)
    (hr : run.length = 31) :
    readElement index (first :: run ++ tail) = .ok (first, run, tail) := by
  have hsplit : Bytes.split? 32 (first :: run ++ tail) = some (first :: run, tail) :=
    Bytes.split?_eq_some.2 ⟨rfl, by simp [hr]⟩
  have hf' : ¬ (64 : UInt8) ≤ first := UInt8.not_le.2 hf
  rw [readElement, hsplit]
  exact if_neg hf'

/-- A byte and the run behind it. -/
theorem getD_cons_run {bytes : Bytes} {i : Nat} (h : i < bytes.length) :
    bytes.getD i 0 :: (bytes.drop (i + 1)).take 31 = (bytes.drop i).take 32 := by
  rw [List.drop_eq_getElem_cons h, List.take_succ_cons, List.getD_eq_getElem?_getD,
    List.getElem?_eq_getElem h, Option.getD_some]

/-- The 96 bytes of a round behind its first element are three times a byte and a run of 31. -/
theorem eq_runs {rest : Bytes} (h : rest.length = 96) :
    rest.getD 0 0 :: (rest.drop 1).take 31 ++ (rest.getD 32 0 :: (rest.drop 33).take 31 ++
      rest.getD 64 0 :: (rest.drop 65).take 31) = rest := by
  have hlast : (rest.drop 64).take 32 = rest.drop 64 :=
    List.take_of_length_le (by simp [h])
  have hmiddle : (rest.drop 32).take 32 ++ rest.drop 64 = rest.drop 32 := by
    rw [← List.drop_drop (i := 32) (j := 32), List.take_append_drop]
  rw [getD_cons_run (by omega), getD_cons_run (by omega), getD_cons_run (by omega), hlast, hmiddle,
    List.drop_zero, List.take_append_drop]

/-- A round that was written is read. -/
theorem readRound_append {index : Nat} {first rest tail : Bytes} (hf : first.length = 31)
    (hr : rest.length = 96) :
    readRound index (encodeRound first rest ++ tail) = .ok (first, rest, tail) := by
  obtain ⟨ha, hb, hc, hd⟩ := spread_lt (rest.getD 0 0) (rest.getD 32 0) (rest.getD 64 0)
  have hgather := gather_spread (rest.getD 0 0) (rest.getD 32 0) (rest.getD 64 0)
  simp only [encodeRound, readRound, List.append_assoc]
  rw [readElement_append ha hf]
  simp only [bind, Except.bind]
  rw [readElement_append hb (by simp [hr])]
  simp only
  rw [readElement_append hc (by simp [hr])]
  simp only
  rw [readElement_append hd (by simp [hr])]
  simp only [hgather, pure, Except.pure]
  rw [eq_runs hr]

@[simp]
theorem length_encodeRound {first rest : Bytes} (hf : first.length = 31) (hr : rest.length = 96) :
    (encodeRound first rest).length = 128 := by
  simp [encodeRound, hf, hr]

/-! ## All rounds -/

theorem encodeRounds_nil : encodeRounds [] = [] := by
  rw [encodeRounds]
  rfl

theorem encodeRounds_of_ne_nil {payload : Bytes} (h : payload ≠ []) :
    encodeRounds payload =
      encodeRound ((Bytes.resize roundSize payload).take 31)
          ((Bytes.resize roundSize payload).drop 31) ++
        encodeRounds (payload.drop roundSize) := by
  rw [encodeRounds, if_neg (by simpa using h)]

/-- The rounds of what is left of a payload are read back.  The reader knows how many bytes there
are in all, and the rounds that it has left are enough for them. -/
theorem readRounds_append {length rounds written : Nat} {payload : Bytes}
    (hl : payload.length = length - written) (hr : payload.length ≤ rounds * roundSize)
    (index : Nat) (tail : Bytes) :
    ∃ pad, readRounds length rounds written index (encodeRounds payload ++ tail) =
      .ok (payload ++ pad) := by
  induction rounds generalizing written index payload with
  | zero =>
    obtain rfl : payload = [] := List.length_eq_zero_iff.1 (by omega)
    exact ⟨[], rfl⟩
  | succ rounds ih =>
    by_cases hdone : payload = []
    · subst hdone
      have hle : length ≤ written := Nat.sub_eq_zero_iff_le.1 hl.symm
      refine ⟨[], ?_⟩
      rw [readRounds, if_pos hle]
      rfl
    · have hle : ¬ length ≤ written := by
        have := List.length_pos_iff.2 hdone
        omega
      have hl' : (payload.drop roundSize).length = length - (written + roundSize) := by
        rw [List.length_drop]
        omega
      have hr' : (payload.drop roundSize).length ≤ rounds * roundSize := by
        rw [List.length_drop]
        rw [Nat.succ_mul] at hr
        omega
      obtain ⟨pad, hrest⟩ := ih hl' hr' (index + 4)
      obtain ⟨fill, hfill⟩ := Bytes.exists_resize_append_drop roundSize payload
      have hchunk := Bytes.length_resize roundSize payload
      refine ⟨fill ++ pad, ?_⟩
      rw [readRounds, if_neg hle, encodeRounds_of_ne_nil hdone, List.append_assoc,
        readRound_append (by simp [roundSize]) (by simp [roundSize])]
      simp only [bind, Except.bind, hrest, List.take_append_drop, hfill]
      rfl

theorem length_encodeRounds_le {payload : Bytes} {rounds : Nat}
    (h : payload.length ≤ rounds * roundSize) : (encodeRounds payload).length ≤ 128 * rounds := by
  induction rounds generalizing payload with
  | zero =>
    obtain rfl : payload = [] := List.length_eq_zero_iff.1 (by omega)
    simp [encodeRounds_nil]
  | succ rounds ih =>
    by_cases hdone : payload = []
    · simp [hdone, encodeRounds_nil]
    · have hrest : (payload.drop roundSize).length ≤ rounds * roundSize := by
        rw [List.length_drop]
        rw [Nat.succ_mul] at h
        omega
      have := ih hrest
      rw [encodeRounds_of_ne_nil hdone, List.length_append,
        length_encodeRound (by simp [roundSize]) (by simp [roundSize])]
      omega

/-! ## The whole blob -/

/-- The first element of a blob says which version and how long the payload is. -/
theorem length_head (payload : Bytes) :
    (version :: Bytes.ofNat 3 payload.length ++
      (Bytes.resize firstRoundSize payload).take 27).length = 31 := by
  simp [firstRoundSize, roundSize]

theorem length_encodeAll_le {payload : Bytes} (h : payload.length ≤ maxPayload) :
    (encodeAll payload).length ≤ 131072 := by
  have hrest : (payload.drop firstRoundSize).length ≤ 1023 * roundSize := by
    rw [List.length_drop]
    simp only [maxPayload, firstRoundSize, roundSize] at *
    omega
  have := length_encodeRounds_le hrest
  rw [encodeAll, List.length_append, length_encodeRound (length_head payload)
    (by simp [firstRoundSize, roundSize])]
  omega

/-- A blob holds all rounds of its payload, and something behind them. -/
theorem encode_of_le {payload : Bytes} (h : payload.length ≤ maxPayload) :
    ∃ blob : Blob, encode payload = .ok blob ∧
      blob.toList =
        encodeAll payload ++ List.replicate (131072 - (encodeAll payload).length) 0 := by
  rw [encode, if_neg (Nat.not_lt.2 h)]
  exact ⟨_, rfl, Bytes.resize_of_le (length_encodeAll_le h)⟩

theorem encode_of_lt {payload : Bytes} (h : maxPayload < payload.length) :
    encode payload = .error ⟨payload.length⟩ :=
  if_pos h

/-- The second byte of a blob is the version, and the three bytes behind it are the length. -/
theorem exists_encodeAll (payload tail : Bytes) :
    ∃ high more, encodeAll payload ++ tail =
      high :: version :: (Bytes.ofNat 3 payload.length ++ more) := by
  simp only [encodeAll, encodeRound, List.cons_append, List.append_assoc]
  exact ⟨_, _, rfl⟩

/-- **The round trip**, whatever stands behind the rounds of the payload. -/
theorem decode_of_encodeAll {blob : Blob} {payload tail : Bytes}
    (hlen : payload.length ≤ maxPayload) (h : blob.toList = encodeAll payload ++ tail) :
    blob.decode = .ok payload := by
  obtain ⟨high, more, hhead⟩ := exists_encodeAll payload tail
  have hversion : blob.toList.getD 1 0 = version := by rw [h, hhead]; rfl
  have hlength : Bytes.toNat ((blob.toList.drop 2).take 3) = payload.length := by
    rw [h, hhead, List.drop_succ_cons, List.drop_succ_cons, List.drop_zero,
      List.take_left' (Bytes.length_ofNat 3 _), Bytes.toNat_ofNat]
    simp only [maxPayload, roundSize, Nat.pow_eq] at *
    omega
  have hrounds : (payload.drop firstRoundSize).length ≤ 1023 * roundSize := by
    rw [List.length_drop]
    simp only [maxPayload, firstRoundSize, roundSize] at *
    omega
  obtain ⟨pad, hmore⟩ := readRounds_append List.length_drop hrounds 4 tail
  obtain ⟨fill, hfill⟩ := Bytes.exists_resize_append_drop firstRoundSize payload
  have hfirst : readRound 0 blob.toList = .ok
      (version :: Bytes.ofNat 3 payload.length ++ (Bytes.resize firstRoundSize payload).take 27,
        (Bytes.resize firstRoundSize payload).drop 27,
        encodeRounds (payload.drop firstRoundSize) ++ tail) := by
    rw [h, encodeAll, List.append_assoc, readRound_append (length_head payload)
      (by simp [firstRoundSize, roundSize])]
  rw [decode]
  simp only [hversion, hlength, ne_eq, not_true_eq_false, if_false, Nat.not_lt.2 hlen, hfirst,
    hmore, bind, Except.bind, pure, Except.pure]
  rw [List.cons_append, List.drop_succ_cons, List.drop_left' (Bytes.length_ofNat 3 _),
    List.take_append_drop, hfill, List.take_left']
  rfl

/-! ## High bits -/

/-- The first bytes of all elements of 32 bytes have their two high bits clear. -/
def IsClear (bytes : Bytes) : Prop := ∀ k, bytes.getD (32 * k) 0 < 64

theorem isClear_zeros (n : Nat) : IsClear (List.replicate n 0) := by
  intro k
  rw [List.getD_eq_getElem?_getD, List.getElem?_replicate]
  split <;> decide

theorem IsClear.append {front back : Bytes} (hf : IsClear front) (hb : IsClear back)
    (elements : Nat) (hl : front.length = 32 * elements) : IsClear (front ++ back) := by
  intro k
  by_cases hk : k < elements
  · rw [List.getD_append _ _ _ _ (by omega)]
    exact hf k
  · rw [List.getD_append_right _ _ _ _ (by omega), hl, ← Nat.mul_sub]
    exact hb _

theorem isClear_element {first : UInt8} {run : Bytes} (hf : first < 64) (hr : run.length = 31) :
    IsClear (first :: run) := by
  intro k
  cases k with
  | zero => exact hf
  | succ k =>
    rw [List.getD_eq_default _ _ (by rw [List.length_cons, hr]; omega)]
    decide

theorem isClear_encodeRound {first rest : Bytes} (hf : first.length = 31)
    (hr : rest.length = 96) : IsClear (encodeRound first rest) := by
  obtain ⟨ha, hb, hc, hd⟩ := spread_lt (rest.getD 0 0) (rest.getD 32 0) (rest.getD 64 0)
  have h0 := isClear_element ha hf
  have h1 := isClear_element hb (by simp [hr] : ((rest.drop 1).take 31).length = 31)
  have h2 := isClear_element hc (by simp [hr] : ((rest.drop 33).take 31).length = 31)
  have h3 := isClear_element hd (by simp [hr] : ((rest.drop 65).take 31).length = 31)
  exact ((h0.append h1 1 (by simp [hf])).append h2 2 (by simp [hf, hr])).append h3 3
    (by simp [hf, hr])

theorem isClear_encodeRounds_append {tail : Bytes} (ht : IsClear tail) (payload : Bytes) :
    IsClear (encodeRounds payload ++ tail) := by
  fun_induction encodeRounds payload with
  | case1 payload h => simpa using ht
  | case2 payload h chunk ih =>
    rw [List.append_assoc]
    have hchunk : chunk.length = roundSize := Bytes.length_resize roundSize payload
    refine (isClear_encodeRound ?_ ?_).append ih 4 (length_encodeRound ?_ ?_) <;>
      simp [hchunk, roundSize]

theorem isClear_encodeAll_append {tail : Bytes} (ht : IsClear tail) (payload : Bytes) :
    IsClear (encodeAll payload ++ tail) := by
  have hrest : ((Bytes.resize firstRoundSize payload).drop 27).length = 96 := by
    simp [firstRoundSize, roundSize]
  rw [encodeAll, List.append_assoc]
  exact (isClear_encodeRound (length_head payload) hrest).append
    (isClear_encodeRounds_append ht _) 4 (length_encodeRound (length_head payload) hrest)

/-- An element is clear if its two high bits are zero. -/
theorem and_highBits_eq_zero {byte : UInt8} : byte &&& 0b11000000 = 0 ↔ byte < 64 := by
  have hall : ∀ n : Fin 256, UInt8.ofNat n &&& 0b11000000 = 0 ↔ UInt8.ofNat n < 64 := by
    decide +kernel
  simpa using hall ⟨byte.toNat, byte.toNat_lt⟩

/-- A payload that fits is carried by a blob from which it is read back. -/
theorem exists_encode_decode {payload : Bytes} (h : payload.length ≤ maxPayload) :
    ∃ blob : Blob, encode payload = .ok blob ∧ IsClear blob.toList ∧ blob.decode = .ok payload := by
  obtain ⟨blob, hencode, hbytes⟩ := encode_of_le h
  refine ⟨blob, hencode, ?_, decode_of_encodeAll h hbytes⟩
  rw [hbytes]
  exact isClear_encodeAll_append (isClear_zeros _) payload

/-- What is read from the blob of a payload is the payload. -/
theorem decode_of_encode {payload : Bytes} {blob : Blob} (h : encode payload = .ok blob) :
    blob.decode = .ok payload := by
  have hlen : payload.length ≤ maxPayload := Nat.not_lt.1 fun hlt => by
    rw [encode_of_lt hlt] at h
    simp at h
  obtain ⟨blob', hencode, _, hdecode⟩ := exists_encode_decode hlen
  rw [h] at hencode
  cases hencode
  exact hdecode

/-- **A payload of at most 130044 bytes has a blob**, of 4096 elements of 32 bytes whose two high
bits are clear, and is read back from it.  A longer one has none. -/
theorem encode_roundTrip (payload : Bytes) :
    (payload.length ≤ 130044 → ∃ blob : Blob, encode payload = .ok blob ∧
      blob.toList.length = 131072 ∧
      (∀ k < 4096, blob.toList.getD (32 * k) 0 &&& 0b11000000 = 0) ∧
      blob.decode = .ok payload) ∧
    (130044 < payload.length → encode payload = .error ⟨payload.length⟩) := by
  refine ⟨fun h => ?_, encode_of_lt⟩
  obtain ⟨blob, hencode, hclear, hdecode⟩ := exists_encode_decode h
  exact ⟨blob, hencode, blob.length_toList, fun k _ => and_highBits_eq_zero.2 (hclear k), hdecode⟩

end Blob
end BatchInbox
