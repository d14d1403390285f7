import BatchInbox.Proofs.Blob
import Mathlib.Tactic.IntervalCases

/-!
# What a blob is read from

Four elements whose first bytes have their two high bits clear are a round as it is written: the bytes
that are gathered from the first bytes are those that have been spread over them.  So a reader that
accepts its rounds has before it what a writer would have written for the bytes it gives back, and it
refuses the first element that no writer could have written.

How many rounds it looks at depends on the length that the blob announces, and on nothing else.

## What is here

* `Blob.spread_gather` — what is gathered is spread again.
* `Blob.exists_encodeRound` — four clear elements are a round.
* `Blob.readRounds_of_clear`, `Blob.readRounds_of_high` — what becomes of rounds.
* `Blob.rounds` — the number of rounds that a payload takes.
* `Blob.decode_of_clear`, `Blob.decode_of_high` — what becomes of a blob.
* `Blob.decode_congr` — rounds that are not needed make no difference.
-/

set_option autoImplicit false
namespace BatchInbox
namespace Blob

/-! ## One round -/

/-- Clear bytes are those that the bytes gathered from them are spread over. -/
theorem spread_gather {a b c d : UInt8} (ha : a < 64) (hb : b < 64) (hc : c < 64) (hd : d < 64) :
    spread (gather a b c d).1 (gather a b c d).2.1 (gather a b c d).2.2 = (a, b, c, d) := by
  simp only [UInt8.lt_iff_toNat_lt, UInt8.reduceToNat] at ha hb hc hd
  simp only [spread, gather, Prod.mk.injEq, ← UInt8.toNat_inj, UInt8.toNat_add, UInt8.toNat_mul,
    UInt8.toNat_div, UInt8.toNat_mod, UInt8.reduceToNat]
  omega

/-- An element that is there, and what follows it. -/
theorem exists_element {n : Nat} {bytes : Bytes} (h : bytes.length = 32 + n) :
    ∃ (first : UInt8) (run rest : Bytes),
      run.length = 31 ∧ rest.length = n ∧ bytes = (first :: run) ++ rest := by
  obtain ⟨first, tail, rfl⟩ := List.exists_cons_of_length_pos (l := bytes) (by omega)
  rw [List.length_cons] at h
  refine ⟨first, tail.take 31, tail.drop 31, ?_, ?_, ?_⟩
  · rw [List.length_take]
    omega
  · rw [List.length_drop]
    omega
  · rw [List.cons_append, List.take_append_drop]

section
variable (first : UInt8) {run : Bytes}

theorem drop_element (h : run.length = 31) (rest : Bytes) (n : Nat) :
    ((first :: run) ++ rest).drop (32 + n) = rest.drop n := by
  rw [← List.drop_drop, List.drop_left' (by rw [List.length_cons, h])]

theorem getD_element (h : run.length = 31) (rest : Bytes) (n : Nat) :
    ((first :: run) ++ rest).getD (32 + n) 0 = rest.getD n 0 := by
  rw [List.getD_append_right _ _ _ _ (by rw [List.length_cons, h]; omega), List.length_cons, h,
    Nat.add_sub_cancel_left]

end

/-- Three bytes with a run of 31 behind each of them. -/
theorem getD_runs (x : UInt8) {r₁ r₂ : Bytes} (h₁ : r₁.length = 31) (y : UInt8)
    (h₂ : r₂.length = 31) (z : UInt8) (r₃ : Bytes) :
    ((x :: r₁) ++ ((y :: r₂) ++ (z :: r₃))).getD 32 0 = y ∧
      ((x :: r₁) ++ ((y :: r₂) ++ (z :: r₃))).getD 64 0 = z :=
  ⟨getD_element x h₁ _ 0, (getD_element x h₁ _ 32).trans (getD_element y h₂ _ 0)⟩

/-- A round for three bytes with a run of 31 behind each of them. -/
theorem encodeRound_runs (first : Bytes) {x y z : UInt8} {r₁ r₂ r₃ : Bytes} (h₁ : r₁.length = 31)
    (h₂ : r₂.length = 31) (h₃ : r₃.length = 31) :
    encodeRound first ((x :: r₁) ++ ((y :: r₂) ++ (z :: r₃))) =
      ((spread x y z).1 :: first) ++ (((spread x y z).2.1 :: r₁) ++
        (((spread x y z).2.2.1 :: r₂) ++ ((spread x y z).2.2.2 :: r₃))) := by
  obtain ⟨hy, hz⟩ := getD_runs x h₁ y h₂ z r₃
  have hr₂ := drop_element x h₁ ((y :: r₂) ++ (z :: r₃)) 1
  have hr₃ := (drop_element x h₁ ((y :: r₂) ++ (z :: r₃)) 33).trans
    (drop_element y h₂ (z :: r₃) 1)
  have hlast : r₃.take 31 = r₃ := List.take_of_length_le (Nat.le_of_eq h₃)
  simp only [Nat.reduceAdd] at hr₂ hr₃
  simp only [encodeRound, hy, hz, hr₂, hr₃]
  simp only [List.cons_append, List.drop_succ_cons, List.drop_zero, List.take_left' h₁,
    List.take_left' h₂, hlast, List.getD_cons_zero, List.append_assoc]

/-- The first bytes of the elements behind a round. -/
theorem getD_drop_round (bytes : Bytes) (k : Nat) :
    (bytes.drop 128).getD (32 * k) 0 = bytes.getD (32 * (k + 4)) 0 := by
  rw [Bytes.getD_drop]
  congr 1
  omega

/-- So many elements have their two high bits clear. -/
def IsClearUpTo (elements : Nat) (bytes : Bytes) : Prop :=
  ∀ k < elements, bytes.getD (32 * k) 0 < 64

theorem IsClearUpTo.mono {m n : Nat} {bytes : Bytes} (h : IsClearUpTo n bytes) (hle : m ≤ n) :
    IsClearUpTo m bytes :=
  fun k hk => h k (Nat.lt_of_lt_of_le hk hle)

/-- The elements behind the first round are clear as well. -/
theorem IsClearUpTo.drop_round {n : Nat} {bytes : Bytes} (h : IsClearUpTo (n + 4) bytes) :
    IsClearUpTo n (bytes.drop 128) := fun k hk => by
  rw [getD_drop_round]
  exact h _ (Nat.add_lt_add_right hk 4)

/-- **Four clear elements are a round** as it is written. -/
theorem exists_encodeRound {bytes : Bytes} (hlength : bytes.length = 128)
    (hclear : IsClearUpTo 4 bytes) :
    ∃ first rest : Bytes, first.length = 31 ∧ rest.length = 96 ∧ bytes = encodeRound first rest := by
  obtain ⟨a, r₀, rest₀, h₀, hrest₀, rfl⟩ := exists_element (n := 96) hlength
  obtain ⟨b, r₁, rest₁, h₁, hrest₁, rfl⟩ := exists_element (n := 64) hrest₀
  obtain ⟨c, r₂, rest₂, h₂, hrest₂, rfl⟩ := exists_element (n := 32) hrest₁
  obtain ⟨d, r₃, rest₃, h₃, hrest₃, rfl⟩ := exists_element (n := 0) hrest₂
  obtain rfl := List.length_eq_zero_iff.1 hrest₃
  have ha : a < 64 := hclear 0 (by decide)
  have hb : b < 64 := by
    have h := hclear 1 (by decide)
    rwa [getD_element a h₀ _ 0] at h
  have hc : c < 64 := by
    have h := hclear 2 (by decide)
    rwa [getD_element a h₀ _ 32, getD_element b h₁ _ 0] at h
  have hd : d < 64 := by
    have h := hclear 3 (by decide)
    rwa [getD_element a h₀ _ 64, getD_element b h₁ _ 32, getD_element c h₂ _ 0] at h
  have hspread := spread_gather ha hb hc hd
  generalize gather a b c d = bytes at hspread
  obtain ⟨x, y, z⟩ := bytes
  replace hspread : spread x y z = (a, b, c, d) := hspread
  refine ⟨r₀, (x :: r₁) ++ ((y :: r₂) ++ (z :: r₃)), h₀, by simp [h₁, h₂, h₃], ?_⟩
  rw [encodeRound_runs r₀ h₁ h₂ h₃, hspread, List.append_nil]

/-- A round whose elements are clear is read. -/
theorem readRound_of_clear (index : Nat) {bytes : Bytes} (hlength : 128 ≤ bytes.length)
    (hclear : IsClearUpTo 4 bytes) :
    ∃ first rest : Bytes, first.length = 31 ∧ rest.length = 96 ∧
      bytes.take 128 = encodeRound first rest ∧
      readRound index bytes = .ok (first, rest, bytes.drop 128) := by
  have htake : (bytes.take 128).length = 128 := by
    rw [List.length_take, Nat.min_eq_left hlength]
  have hfront : IsClearUpTo 4 (bytes.take 128) := fun e he => by
    rw [Bytes.getD_take (by omega)]
    exact hclear e he
  obtain ⟨first, rest, hfirst, hrest, hround⟩ := exists_encodeRound htake hfront
  refine ⟨first, rest, hfirst, hrest, hround, ?_⟩
  rw [← List.take_append_drop 128 bytes, hround, readRound_append hfirst hrest, ← hround,
    List.take_append_drop]

/-- An element that is there is refused for the high bits of its first byte. -/
theorem readElement_of_high (index : Nat) {bytes : Bytes} (h : 32 ≤ bytes.length)
    (hhigh : 64 ≤ bytes.getD 0 0) :
    readElement index bytes = .error (.invalidFieldElement index) := by
  obtain ⟨n, hn⟩ := Nat.exists_eq_add_of_le h
  obtain ⟨first, run, rest, hrun, -, rfl⟩ := exists_element hn
  have hsplit : Bytes.split? 32 ((first :: run) ++ rest) = some (first :: run, rest) :=
    Bytes.split?_append (by rw [List.length_cons, hrun]) rest
  rw [readElement, hsplit]
  exact if_pos hhigh

/-- An element that is clear is read. -/
theorem readElement_of_clear (index : Nat) {bytes : Bytes} (h : 32 ≤ bytes.length)
    (hclear : bytes.getD 0 0 < 64) :
    ∃ first run, readElement index bytes = .ok (first, run, bytes.drop 32) := by
  obtain ⟨n, hn⟩ := Nat.exists_eq_add_of_le h
  obtain ⟨first, run, rest, hrun, -, rfl⟩ := exists_element hn
  refine ⟨first, run, ?_⟩
  rw [drop_element first hrun rest 0]
  exact readElement_append hclear hrun

/-- A round is refused for the first of its elements that is not clear. -/
theorem readRound_of_high {index e : Nat} {bytes : Bytes} (hlength : 128 ≤ bytes.length)
    (he : e < 4) (hhigh : 64 ≤ bytes.getD (32 * e) 0)
    (hclear : IsClearUpTo e bytes) :
    readRound index bytes = .error (.invalidFieldElement (index + e)) := by
  have hdrop (k : Nat) : (bytes.drop (32 * k)).getD 0 0 = bytes.getD (32 * k) 0 :=
    Bytes.getD_drop (32 * k) 0 bytes
  have hfits : ∀ k < 4, 32 ≤ (bytes.drop (32 * k)).length := fun k hk => by
    rw [List.length_drop]
    omega
  have hrefused := readElement_of_high (index + e) (hfits e he) (by rwa [hdrop])
  have hread : ∀ k < e, ∃ first run,
      readElement (index + k) (bytes.drop (32 * k)) = .ok (first, run, bytes.drop (32 * (k + 1))) :=
    fun k hk => by
      rw [Nat.mul_succ, ← List.drop_drop]
      exact readElement_of_clear _ (hfits k (by omega)) (by rw [hdrop]; exact hclear k hk)
  interval_cases e
  · replace hrefused : readElement index bytes = _ := hrefused
    rw [readRound, hrefused]
    rfl
  · obtain ⟨a, run₀, h₀⟩ := hread 0 (by decide)
    replace h₀ : readElement index bytes = _ := h₀
    rw [readRound, h₀]
    simp only [bind, Except.bind, Nat.zero_add, Nat.mul_one, hrefused]
  · obtain ⟨a, run₀, h₀⟩ := hread 0 (by decide)
    obtain ⟨b, run₁, h₁⟩ := hread 1 (by decide)
    replace h₀ : readElement index bytes = _ := h₀
    rw [readRound, h₀]
    simp only [bind, Except.bind, Nat.zero_add, Nat.mul_one, h₁, hrefused]
  · obtain ⟨a, run₀, h₀⟩ := hread 0 (by decide)
    obtain ⟨b, run₁, h₁⟩ := hread 1 (by decide)
    obtain ⟨c, run₂, h₂⟩ := hread 2 (by decide)
    replace h₀ : readElement index bytes = _ := h₀
    rw [readRound, h₀]
    simp only [bind, Except.bind, Nat.zero_add, Nat.mul_one, h₁, h₂, hrefused]

/-! ## All rounds -/

/-- The rounds behind the first one that so many bytes take. -/
def roundsFor (length : Nat) : Nat := (length + 126) / 127

@[simp]
theorem roundsFor_zero : roundsFor 0 = 0 := rfl

theorem roundsFor_of_lt {length written : Nat} (h : written < length) :
    roundsFor (length - written) = roundsFor (length - (written + roundSize)) + 1 := by
  simp only [roundsFor, roundSize]
  omega

theorem encodeRounds_append_round {first rest : Bytes} (hf : first.length = 31)
    (hr : rest.length = 96) (more : Bytes) :
    encodeRounds (first ++ rest ++ more) = encodeRound first rest ++ encodeRounds more := by
  have hround : (first ++ rest).length = roundSize := by
    rw [List.length_append, hf, hr]
    rfl
  have hchunk : Bytes.resize roundSize (first ++ rest ++ more) = first ++ rest := by
    rw [Bytes.resize_of_ge (by rw [List.length_append, hround]; omega), List.take_left' hround]
  have hne : first ++ rest ++ more ≠ [] := List.ne_nil_of_length_pos (by
    rw [List.length_append, hround, roundSize]
    omega)
  rw [encodeRounds_of_ne_nil hne, hchunk, List.take_left' hf, List.drop_left' hf,
    List.drop_left' hround]

/-- Rounds of as many bytes are rounds of the same bytes. -/
theorem eq_of_encodeRounds_eq {a b : Bytes} (h : encodeRounds a = encodeRounds b)
    (hlength : a.length = b.length) : a = b := by
  have hfits : a.length ≤ a.length * roundSize := Nat.le_mul_of_pos_right _ (by decide)
  have hfits' : b.length ≤ a.length * roundSize := Nat.le_trans (Nat.le_of_eq hlength.symm) hfits
  have hall : a.length = a.length - 0 := rfl
  obtain ⟨pad, ha⟩ := readRounds_append hall hfits 0 []
  obtain ⟨pad', hb⟩ := readRounds_append (hlength.symm.trans hall) hfits' 0 []
  rw [h, hb, Except.ok.injEq] at ha
  exact (List.append_inj_left ha hlength.symm).symm

section
variable {length rounds written : Nat}

/-- **Rounds whose elements are clear are read**: they are the rounds of some bytes, which the reader
gives back.  It looks at no more rounds than the announced length takes. -/
theorem readRounds_of_clear (hrounds : roundsFor (length - written) ≤ rounds) (index : Nat)
    {bytes : Bytes}
    (hlength : 128 * roundsFor (length - written) ≤ bytes.length)
    (hclear : IsClearUpTo (4 * roundsFor (length - written)) bytes) :
    ∃ chunks : Bytes, chunks.length = roundSize * roundsFor (length - written) ∧
      bytes.take (128 * roundsFor (length - written)) = encodeRounds chunks ∧
      readRounds length rounds written index bytes = .ok chunks := by
  induction rounds generalizing written index bytes with
  | zero =>
    rw [Nat.le_zero.1 hrounds]
    exact ⟨[], rfl, by rw [encodeRounds_nil]; rfl, rfl⟩
  | succ rounds ih =>
    by_cases hle : length ≤ written
    · rw [Nat.sub_eq_zero_of_le hle, readRounds, if_pos hle]
      exact ⟨[], rfl, by rw [encodeRounds_nil]; rfl, rfl⟩
    · have hsucc := roundsFor_of_lt (Nat.lt_of_not_le hle)
      rw [hsucc, Nat.mul_succ] at hclear
      obtain ⟨first, rest, hf, hr, hround, hread⟩ := readRound_of_clear index
        (by omega : 128 ≤ bytes.length) (hclear.mono (by omega))
      obtain ⟨chunks, hchunks, htake, hmore⟩ := ih (by omega) (index + 4)
        (by rw [List.length_drop]; omega) hclear.drop_round
      refine ⟨first ++ rest ++ chunks, ?_, ?_, ?_⟩
      · rw [List.length_append, List.length_append, hf, hr, hchunks, hsucc, Nat.mul_succ,
          Nat.add_comm]
        rfl
      · rw [encodeRounds_append_round hf hr, ← hround, ← htake, hsucc, Nat.mul_succ, Nat.add_comm,
          List.take_add]
      · rw [readRounds, if_neg hle, hread]
        simp only [bind, Except.bind, hmore]
        rfl

/-- **Rounds are refused** for the first element that is not clear, if the announced length takes
it. -/
theorem readRounds_of_high (hrounds : roundsFor (length - written) ≤ rounds) (index : Nat)
    {bytes : Bytes}
    (hlength : 128 * roundsFor (length - written) ≤ bytes.length) {k : Nat}
    (hk : k < 4 * roundsFor (length - written)) (hhigh : 64 ≤ bytes.getD (32 * k) 0)
    (hclear : IsClearUpTo k bytes) :
    readRounds length rounds written index bytes = .error (.invalidFieldElement (index + k)) := by
  induction rounds generalizing written index bytes k with
  | zero => omega
  | succ rounds ih =>
    have hle : ¬ length ≤ written := fun hle => by
      rw [Nat.sub_eq_zero_of_le hle, roundsFor_zero] at hk
      omega
    have hsucc := roundsFor_of_lt (Nat.lt_of_not_le hle)
    rw [readRounds, if_neg hle]
    by_cases hfirst : k < 4
    · rw [readRound_of_high (by omega) hfirst hhigh hclear]
      rfl
    · obtain ⟨k, rfl⟩ := Nat.exists_eq_add_of_le' (Nat.le_of_not_lt hfirst)
      obtain ⟨first, rest, hf, hr, hround, hread⟩ := readRound_of_clear index
        (by omega : 128 ≤ bytes.length) (hclear.mono (by omega))
      rw [← getD_drop_round] at hhigh
      have hless : roundsFor (length - (written + roundSize)) ≤ rounds := by omega
      have hmore := ih hless (index + 4) (by rw [List.length_drop]; omega) (by omega) hhigh
        hclear.drop_round
      rw [hread]
      simp only [bind, Except.bind, hmore]
      congr 2
      omega

end

/-! ## The whole blob -/

/-- The length of the payload, as the blob announces it. -/
def announced (blob : Blob) : Nat := Bytes.toNat ((blob.toList.drop 2).take 3)

/-- What stands in front of a payload of such a length: the version and the length. -/
def header (length : Nat) : Bytes := version :: Bytes.ofNat 3 length

theorem length_header (length : Nat) : (header length).length = 4 := by simp [header]

/-- A blob begins with five bytes, of which one belongs to the first element, one is the version, and
three are the length. -/
theorem exists_head (blob : Blob) :
    ∃ a given high middle low tail, blob.toList = a :: given :: high :: middle :: low :: tail := by
  obtain ⟨bytes, hlength⟩ := blob
  match bytes with
  | a :: given :: high :: middle :: low :: tail => exact ⟨a, given, high, middle, low, tail, rfl⟩

/-- The rounds that a payload takes: one for the first bytes, and as many as the others take. -/
def rounds (length : Nat) : Nat := 1 + roundsFor (length - firstRoundSize)

theorem rounds_le {length : Nat} (h : length ≤ maxPayload) : rounds length ≤ 1024 := by
  simp only [rounds, roundsFor, firstRoundSize, maxPayload, roundSize] at *
  omega

section
variable {blob : Blob}

theorem decode_of_version (h : blob.toList.getD 1 0 ≠ version) :
    blob.decode = .error (.invalidVersion (blob.toList.getD 1 0)) := by
  simp only [decode, if_pos h]
  rfl

theorem decode_of_lt (hversion : blob.toList.getD 1 0 = version)
    (hlength : maxPayload < blob.announced) :
    blob.decode = .error (.lengthTooLarge blob.announced) := by
  rw [announced] at *
  simp only [decode, hversion, ne_eq, not_true_eq_false, if_false, if_pos hlength]
  rfl

/-- A blob of this format is read round by round. -/
theorem decode_eq (hversion : blob.toList.getD 1 0 = version)
    (hlength : blob.announced ≤ maxPayload) :
    blob.decode = do
      let (first, rest, bytes) ← readRound 0 blob.toList
      let more ← readRounds blob.announced 1023 firstRoundSize 4 bytes
      return (first.drop 4 ++ rest ++ more).take blob.announced := by
  have hfits : ¬ maxPayload < blob.announced := Nat.not_lt.2 hlength
  simp only [decode, hversion, ne_eq, not_true_eq_false, if_false]
  rw [← announced, if_neg hfits]

/-- A blob of this format begins with a byte and the header of its payload. -/
theorem exists_header (hversion : blob.toList.getD 1 0 = version) :
    ∃ high more, blob.toList = high :: (header blob.announced ++ more) := by
  obtain ⟨a, given, high, middle, low, tail, hbytes⟩ := exists_head blob
  have hgiven : given = version := by rwa [hbytes] at hversion
  have hlength : Bytes.ofNat 3 blob.announced = [high, middle, low] := by
    rw [announced, hbytes]
    exact Bytes.ofNat_toNat rfl
  exact ⟨a, tail, by rw [hbytes, header, hgiven, hlength]; rfl⟩

/-- The first element of a blob of this format. -/
theorem first_of_version {first rest : Bytes} (hf : first.length = 31)
    (hround : blob.toList.take 128 = encodeRound first rest)
    (hversion : blob.toList.getD 1 0 = version) :
    first = header blob.announced ++ first.drop 4 := by
  obtain ⟨high, more, hblob⟩ := exists_header hversion
  have hheader := length_header blob.announced
  have hleft : (blob.toList.take 128).tail.take 31 = first := by
    rw [hround]
    simp only [encodeRound, List.cons_append, List.append_assoc, List.tail_cons]
    exact List.take_left' hf
  have hright : (blob.toList.take 128).tail.take 31 = header blob.announced ++ more.take 27 := by
    rw [hblob, List.take_succ_cons, List.tail_cons, List.take_take, List.take_append,
      List.take_of_length_le (by rw [hheader]; decide), hheader]
    rfl
  rw [← hleft, hright, List.drop_left' hheader]

/-- A blob of this format whose elements are clear, as many as its payload takes, **holds the rounds
of a payload of the announced length**, with something behind it that fills up the last round. -/
theorem decode_of_clear (hversion : blob.toList.getD 1 0 = version)
    (hlength : blob.announced ≤ maxPayload)
    (hclear : IsClearUpTo (4 * rounds blob.announced) blob.toList) :
    ∃ payload pad : Bytes, payload.length = blob.announced ∧
      4 + (payload ++ pad).length = roundSize * rounds blob.announced ∧
      blob.toList.take (128 * rounds blob.announced) =
        encodeRounds (header blob.announced ++ (payload ++ pad)) ∧
      blob.decode = .ok payload := by
  have hsize := blob.length_toList
  have hrounds := rounds_le hlength
  rw [rounds, Nat.add_comm, Nat.mul_succ] at hclear
  rw [rounds] at hrounds ⊢
  obtain ⟨first, rest, hf, hr, hround, hread⟩ := readRound_of_clear 0
    (by omega : 128 ≤ blob.toList.length) (hclear.mono (by omega))
  have hless : roundsFor (blob.announced - firstRoundSize) ≤ 1023 := by omega
  obtain ⟨chunks, hchunks, htake, hmore⟩ := readRounds_of_clear hless 4
    (by rw [List.length_drop]; omega) hclear.drop_round
  have hall : (first.drop 4 ++ rest ++ chunks).length =
      firstRoundSize + roundSize * roundsFor (blob.announced - firstRoundSize) := by
    rw [List.length_append, List.length_append, List.length_drop, hf, hr, hchunks]
    rfl
  have henough : blob.announced ≤ (first.drop 4 ++ rest ++ chunks).length := by
    rw [hall]
    simp only [roundsFor, firstRoundSize, roundSize]
    omega
  refine ⟨(first.drop 4 ++ rest ++ chunks).take blob.announced,
    (first.drop 4 ++ rest ++ chunks).drop blob.announced, ?_, ?_, ?_, ?_⟩
  · rw [List.length_take, Nat.min_eq_left henough]
  · rw [List.take_append_drop, hall]
    simp only [firstRoundSize, roundSize]
    omega
  · rw [List.take_append_drop, ← List.append_assoc, ← List.append_assoc,
      ← first_of_version hf hround hversion, encodeRounds_append_round hf hr, ← hround, ← htake,
      Nat.mul_add, Nat.mul_one, List.take_add]
  · rw [decode_eq hversion hlength, hread]
    simp only [bind, Except.bind, hmore, pure, Except.pure]

/-- A blob of this format is refused for the first element that is not clear, if its payload takes
that element. -/
theorem decode_of_high (hversion : blob.toList.getD 1 0 = version)
    (hlength : blob.announced ≤ maxPayload) {k : Nat} (hk : k < 4 * rounds blob.announced)
    (hhigh : 64 ≤ blob.toList.getD (32 * k) 0)
    (hclear : IsClearUpTo k blob.toList) :
    blob.decode = .error (.invalidFieldElement k) := by
  have hsize := blob.length_toList
  have hrounds := rounds_le hlength
  rw [rounds] at hk hrounds
  rw [decode_eq hversion hlength]
  by_cases hfirst : k < 4
  · rw [readRound_of_high (by omega) hfirst hhigh hclear, Nat.zero_add]
    rfl
  · obtain ⟨k, rfl⟩ := Nat.exists_eq_add_of_le' (Nat.le_of_not_lt hfirst)
    obtain ⟨first, rest, -, -, -, hread⟩ := readRound_of_clear 0
      (by omega : 128 ≤ blob.toList.length) (hclear.mono (by omega))
    rw [← getD_drop_round] at hhigh
    have hless : roundsFor (blob.announced - firstRoundSize) ≤ 1023 := by omega
    have hmore := readRounds_of_high hless 4 (by rw [List.length_drop]; omega) (by omega) hhigh
      hclear.drop_round
    simp only [hread, hmore, bind, Except.bind]
    rw [Nat.add_comm]

end

/-! ## What makes no difference -/

theorem getD_eq_of_take_eq {a b : Bytes} {n i : Nat} (h : a.take n = b.take n) (hi : i < n) :
    a.getD i 0 = b.getD i 0 := by
  rw [← Bytes.getD_take hi, h, Bytes.getD_take hi]

/-- Elements are clear, or there is a first one that is not. -/
theorem clear_or_high (bytes : Bytes) (elements : Nat) :
    IsClearUpTo elements bytes ∨
      ∃ k < elements, 64 ≤ bytes.getD (32 * k) 0 ∧ IsClearUpTo k bytes := by
  induction elements with
  | zero => exact .inl fun k hk => absurd hk (Nat.not_lt_zero k)
  | succ elements ih =>
    rcases ih with hclear | ⟨k, hk, hhigh, hclear⟩
    · by_cases hlast : bytes.getD (32 * elements) 0 < 64
      · refine .inl fun k hk => ?_
        rcases Nat.lt_succ_iff_lt_or_eq.1 hk with hk | rfl
        · exact hclear k hk
        · exact hlast
      · exact .inr ⟨elements, Nat.lt_succ_self _, UInt8.not_lt.1 hlast, hclear⟩
    · exact .inr ⟨k, Nat.lt_succ_of_lt hk, hhigh, hclear⟩

/-- **What the payload does not take makes no difference**: a blob that begins with the same rounds
comes to the same. -/
theorem decode_congr {blob other : Blob}
    (h : other.toList.take (128 * rounds blob.announced) =
      blob.toList.take (128 * rounds blob.announced)) : other.decode = blob.decode := by
  have hpos : 128 ≤ 128 * rounds blob.announced := by
    rw [rounds]
    omega
  have hgiven : other.toList.getD 1 0 = blob.toList.getD 1 0 := getD_eq_of_take_eq h (by omega)
  have hfirst : ∀ k < 4 * rounds blob.announced,
      other.toList.getD (32 * k) 0 = blob.toList.getD (32 * k) 0 :=
    fun k hk => getD_eq_of_take_eq h (by omega)
  have hannounced : other.announced = blob.announced := by
    have hcut : ∀ bytes : Bytes, (bytes.drop 2).take 3 =
        ((bytes.take (128 * rounds blob.announced)).drop 2).take 3 := fun bytes => by
      rw [List.drop_take, List.take_take, Nat.min_eq_left (by omega)]
    rw [announced, hcut, h, ← hcut, announced]
  by_cases hversion : blob.toList.getD 1 0 = version
  · rcases Nat.lt_or_ge maxPayload blob.announced with hlarge | hlength
    · rw [decode_of_lt hversion hlarge, ← hannounced,
        decode_of_lt (hgiven.trans hversion) (hannounced ▸ hlarge)]
    · rcases clear_or_high blob.toList (4 * rounds blob.announced) with
        hclear | ⟨k, hk, hhigh, hclear⟩
      · obtain ⟨payload, pad, hp, hsize, hrounds, hdecode⟩ :=
          decode_of_clear hversion hlength hclear
        obtain ⟨payload', pad', hp', hsize', hrounds', hdecode'⟩ :=
          decode_of_clear (hgiven.trans hversion) (hannounced ▸ hlength) fun k hk => by
            rw [hannounced] at hk
            rw [hfirst k hk]
            exact hclear k hk
        rw [hannounced] at hp' hsize' hrounds'
        rw [h, hrounds] at hrounds'
        have hsizes : (payload ++ pad).length = (payload' ++ pad').length := by omega
        have hall := eq_of_encodeRounds_eq hrounds'
          (by rw [List.length_append, hsizes, ← List.length_append])
        have hpayload := List.append_inj_left (List.append_cancel_left hall) (hp.trans hp'.symm)
        rw [hdecode, hdecode', hpayload]
      · rw [decode_of_high hversion hlength hk hhigh hclear,
          decode_of_high (hgiven.trans hversion) (hannounced ▸ hlength) (hannounced ▸ hk)
            (by rwa [hfirst k hk]) fun j hj => by
              rw [hfirst j (Nat.lt_trans hj hk)]
              exact hclear j hj]
  · rw [decode_of_version hversion, ← hgiven, decode_of_version (by rwa [hgiven])]

end Blob
end BatchInbox
