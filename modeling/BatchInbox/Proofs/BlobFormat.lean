import BatchInbox.Proofs.BlobCursor

/-!
# What a blob says

A reader refuses a blob for its version, for the length that it announces, or for the first element
with high bits among those that the payload takes; otherwise it gives a payload of that length.

Every bit of the payload has its place in the blob.  A byte of a run stands where it is, and the bits
of the three bytes in between are spread over the first bytes of four elements.  So one can say bit by
bit what a reader takes from a blob, and what becomes of it when the payload is written again: it is
in the same place, and everything else is zero, whatever the blob held there.

## What is here

* `Place`, `Bytes.bitAt` — the bits of byte strings.
* `Blob.testBit_spread` — where the bits of the three bytes go.
* `Blob.place`, `Blob.bitAt_encodeRounds`, `Blob.exists_slotPlace` — where the bits of all bytes go, and
  that nothing else is free.
* `Blob.Outcome`, `Blob.Keeps` — what becomes of a blob, and of what is written again.
* `Blob.decode_exact` — all of this in one statement.
-/

set_option autoImplicit false
namespace BatchInbox

/-- A bit in a byte string, counted from the lowest one of its byte. -/
structure Place where
  byte : Nat
  bit : Nat
  deriving DecidableEq

namespace Bytes

/-- The bit at a place; there is nothing but zeros behind the last byte. -/
def bitAt (bytes : Bytes) (place : Place) : Bool :=
  (bytes.getD place.byte 0).toNat.testBit place.bit

theorem bitAt_append {front : Bytes} {place : Place} (h : place.byte < front.length)
    (back : Bytes) : (front ++ back).bitAt place = front.bitAt place := by
  simp only [bitAt, List.getD_append _ _ _ _ h]

theorem bitAt_append_add {front : Bytes} {size : Nat} (h : front.length = size) (back : Bytes)
    (byte bit : Nat) : (front ++ back).bitAt ⟨size + byte, bit⟩ = back.bitAt ⟨byte, bit⟩ := by
  subst h
  simp only [bitAt, List.getD_append_right _ _ _ _ (Nat.le_add_right ..), Nat.add_sub_cancel_left]

theorem bitAt_take {size : Nat} {place : Place} (h : place.byte < size) (bytes : Bytes) :
    bitAt (bytes.take size) place = bytes.bitAt place := by
  rw [bitAt, getD_take h, bitAt]

/-- Zeros at the end make no difference. -/
theorem getD_append_zeros (bytes : Bytes) (count i : Nat) :
    (bytes ++ List.replicate count 0).getD i 0 = bytes.getD i 0 := by
  rcases Nat.lt_or_ge i bytes.length with h | h
  · rw [List.getD_append _ _ _ _ h]
  · rw [List.getD_append_right _ _ _ _ h, List.getD_eq_default _ _ h,
      List.getD_eq_getElem?_getD, List.getElem?_getD_replicate_default_eq]

theorem bitAt_append_zeros (bytes : Bytes) (count : Nat) (place : Place) :
    (bytes ++ List.replicate count 0).bitAt place = bytes.bitAt place := by
  rw [bitAt, getD_append_zeros, bitAt]

theorem getD_resize {size i : Nat} (h : i < size) (bytes : Bytes) :
    (resize size bytes).getD i 0 = bytes.getD i 0 := by
  rw [resize, getD_append_zeros, getD_take h]

end Bytes

namespace Blob

/-! ## The bits of a round -/

/-- Bits of `low`, and from the fourth bit on those of `high` from its sixth bit on. -/
theorem testBit_above (high : UInt8) {low : UInt8} (hlow : low < 16) (j : Nat) :
    (high / 64 * 16 + low).toNat.testBit j =
      if j < 4 then low.toNat.testBit j else high.toNat.testBit (j + 2) := by
  have hlow' : low.toNat < 2 ^ 4 := UInt8.lt_iff_toNat_lt.1 hlow
  have hhigh := high.toNat_lt
  have hsum : (high / 64 * 16 + low).toNat = 2 ^ 4 * (high.toNat / 2 ^ 6) + low.toNat := by
    simp only [UInt8.toNat_add, UInt8.toNat_mul, UInt8.toNat_div, UInt8.reduceToNat]
    omega
  rw [hsum, Nat.testBit_two_pow_mul_add _ hlow']
  split
  · rfl
  · rw [Nat.testBit_div_two_pow]
    congr 1
    omega

/-- The place of a bit of one of the 127 bytes of a round. -/
def roundPlace (slot bit : Nat) : Place :=
  if slot = 31 then if bit < 6 then ⟨0, bit⟩ else ⟨32, bit - 2⟩
  else if slot = 63 then if bit < 4 then ⟨32, bit⟩ else ⟨96, bit - 4⟩
  else if slot = 95 then if bit < 6 then ⟨64, bit⟩ else ⟨96, bit - 2⟩
  else ⟨slot + 1, bit⟩

theorem roundPlace_of_ne {slot : Nat} (h₁ : slot ≠ 31) (h₂ : slot ≠ 63) (h₃ : slot ≠ 95)
    (bit : Nat) : roundPlace slot bit = ⟨slot + 1, bit⟩ := by
  rw [roundPlace, if_neg h₁, if_neg h₂, if_neg h₃]

theorem byte_roundPlace_lt {slot : Nat} (h : slot < 127) (bit : Nat) :
    (roundPlace slot bit).byte < 128 := by
  rw [roundPlace]
  split_ifs <;> simp only <;> omega

/-- A round is a first byte, and then its bytes with other ones in three places. -/
theorem encodeRound_eq_set {first rest : Bytes} (hf : first.length = 31) (hr : rest.length = 96) :
    encodeRound first rest =
      (spread (rest.getD 0 0) (rest.getD 32 0) (rest.getD 64 0)).1 ::
        ((((first ++ rest).set 31 (spread (rest.getD 0 0) (rest.getD 32 0) (rest.getD 64 0)).2.1).set
          63 (spread (rest.getD 0 0) (rest.getD 32 0) (rest.getD 64 0)).2.2.1).set
          95 (spread (rest.getD 0 0) (rest.getD 32 0) (rest.getD 64 0)).2.2.2) := by
  obtain ⟨x, r₁, rest₁, h₁, hrest₁, rfl⟩ := exists_element (n := 64) hr
  obtain ⟨y, r₂, rest₂, h₂, hrest₂, rfl⟩ := exists_element (n := 32) hrest₁
  obtain ⟨z, r₃, rest₃, h₃, hrest₃, rfl⟩ := exists_element (n := 0) hrest₂
  obtain rfl := List.length_eq_zero_iff.1 hrest₃
  have hrest : (x :: r₁) ++ ((y :: r₂) ++ ((z :: r₃) ++ [])) =
      (x :: r₁) ++ ((y :: r₂) ++ (z :: r₃)) := by rw [List.append_nil]
  obtain ⟨hy, hz⟩ := getD_runs x h₁ y h₂ z r₃
  rw [hrest, encodeRound_runs first h₁ h₂ h₃, hy, hz]
  simp [hf, h₁, h₂]

/-- The bits of the three bytes are spread over the first bytes of four elements. -/
theorem testBit_spread (x y z : UInt8) {bit : Nat} (h : bit < 8) :
    (if bit < 6 then (spread x y z).1.toNat.testBit bit
      else (spread x y z).2.1.toNat.testBit (bit - 2)) = x.toNat.testBit bit ∧
    (if bit < 4 then (spread x y z).2.1.toNat.testBit bit
      else (spread x y z).2.2.2.toNat.testBit (bit - 4)) = y.toNat.testBit bit ∧
    (if bit < 6 then (spread x y z).2.2.1.toNat.testBit bit
      else (spread x y z).2.2.2.toNat.testBit (bit - 2)) = z.toNat.testBit bit := by
  have hsix (byte : UInt8) (hbit : bit < 6) :
      (byte % 64).toNat.testBit bit = byte.toNat.testBit bit := by
    rw [UInt8.toNat_mod]
    exact (Nat.testBit_mod_two_pow byte.toNat 6 bit).trans (by simp [hbit])
  have hlow : y % 16 < 16 := UInt8.mod_lt y (by decide)
  have hhigh : y / 16 < 16 := by
    have := y.toNat_lt
    rw [UInt8.lt_iff_toNat_lt, UInt8.toNat_div]
    simp only [UInt8.reduceToNat]
    omega
  have hx := testBit_above x hlow
  have hz := testBit_above z hhigh
  simp only [spread]
  refine ⟨?_, ?_, ?_⟩
  · split
    · exact hsix x ‹_›
    · rw [hx, if_neg (by omega)]
      congr 1
      omega
  · split
    · rw [hx, if_pos ‹_›, UInt8.toNat_mod]
      exact (Nat.testBit_mod_two_pow y.toNat 4 bit).trans (by simp [‹bit < 4›])
    · rw [hz, if_pos (by omega), UInt8.toNat_div]
      exact (Nat.testBit_div_two_pow (n := 4) y.toNat _).trans (by congr 1; omega)
  · split
    · exact hsix z ‹_›
    · rw [hz, if_neg (by omega)]
      congr 1
      omega

/-- **The bits of the bytes of a round** are where they belong. -/
theorem bitAt_encodeRound {first rest : Bytes} (hf : first.length = 31) (hr : rest.length = 96)
    (slot : Nat) {bit : Nat} (hbit : bit < 8) :
    (encodeRound first rest).bitAt (roundPlace slot bit) =
      ((first ++ rest).getD slot 0).toNat.testBit bit := by
  obtain ⟨hx, hy, hz⟩ := testBit_spread (rest.getD 0 0) (rest.getD 32 0) (rest.getD 64 0) hbit
  have hround := encodeRound_eq_set hf hr
  generalize spread (rest.getD 0 0) (rest.getD 32 0) (rest.getD 64 0) = s at *
  have hsize : (first ++ rest).length = 127 := by rw [List.length_append, hf, hr]
  have hbehind (i : Nat) : (first ++ rest).getD (31 + i) 0 = rest.getD i 0 := by
    rw [List.getD_append_right _ _ _ _ (by omega), hf, Nat.add_sub_cancel_left]
  have h₀ : (encodeRound first rest).getD 0 0 = s.1 := by rw [hround]; rfl
  have h₃₂ : (encodeRound first rest).getD 32 0 = s.2.1 := by
    simp [hround, hsize]
  have h₆₄ : (encodeRound first rest).getD 64 0 = s.2.2.1 := by
    simp [hround, hsize]
  have h₉₆ : (encodeRound first rest).getD 96 0 = s.2.2.2 := by
    simp [hround, hsize]
  by_cases h₁ : slot = 31
  · rw [h₁, hbehind 0, ← hx, roundPlace, if_pos rfl]
    split
    · rw [Bytes.bitAt, h₀]
    · rw [Bytes.bitAt, h₃₂]
  by_cases h₂ : slot = 63
  · rw [h₂, hbehind 32, ← hy, roundPlace, if_neg (by decide), if_pos rfl]
    split
    · rw [Bytes.bitAt, h₃₂]
    · rw [Bytes.bitAt, h₉₆]
  by_cases h₃ : slot = 95
  · rw [h₃, hbehind 64, ← hz, roundPlace, if_neg (by decide), if_neg (by decide), if_pos rfl]
    split
    · rw [Bytes.bitAt, h₆₄]
    · rw [Bytes.bitAt, h₉₆]
  rw [roundPlace_of_ne h₁ h₂ h₃, Bytes.bitAt, hround, List.getD_cons_succ,
    List.getD_eq_getElem?_getD, List.getElem?_set_ne (Ne.symm h₃), List.getElem?_set_ne (Ne.symm h₂),
    List.getElem?_set_ne (Ne.symm h₁), ← List.getD_eq_getElem?_getD]

/-- No other bit of a round is free: what is left are the two high bits of its elements. -/
theorem exists_roundPlace {byte bit : Nat} (hbyte : byte < 128) (hbit : bit < 8)
    (hfree : byte % 32 = 0 → bit < 6) :
    ∃ slot < 127, ∃ b < 8, roundPlace slot b = ⟨byte, bit⟩ := by
  by_cases hrun : byte % 32 = 0
  · have hbit' := hfree hrun
    obtain rfl | rfl | rfl | rfl : byte = 0 ∨ byte = 32 ∨ byte = 64 ∨ byte = 96 := by omega
    · exact ⟨31, by decide, bit, hbit, by rw [roundPlace, if_pos rfl, if_pos hbit']⟩
    · by_cases hlow : bit < 4
      · exact ⟨63, by decide, bit, hbit, by simp [roundPlace, hlow]⟩
      · exact ⟨31, by decide, bit + 2, by omega, by simp [roundPlace]; omega⟩
    · exact ⟨95, by decide, bit, hbit, by simp [roundPlace, hbit']⟩
    · by_cases hlow : bit < 4
      · exact ⟨63, by decide, bit + 4, by omega, by simp [roundPlace]⟩
      · exact ⟨95, by decide, bit + 2, by omega, by simp [roundPlace]; omega⟩
  · refine ⟨byte - 1, by omega, bit, hbit, ?_⟩
    rw [roundPlace_of_ne (by omega) (by omega) (by omega), Nat.sub_add_cancel (by omega)]

/-! ## The bits of all rounds -/

/-- The place of a bit of the bytes that are written in rounds. -/
def slotPlace (slot bit : Nat) : Place :=
  ⟨128 * (slot / 127) + (roundPlace (slot % 127) bit).byte, (roundPlace (slot % 127) bit).bit⟩

theorem slotPlace_of_lt {slot : Nat} (h : slot < 127) (bit : Nat) :
    slotPlace slot bit = roundPlace slot bit := by
  rw [slotPlace, Nat.div_eq_of_lt h, Nat.mod_eq_of_lt h, Nat.mul_zero, Nat.zero_add]

theorem slotPlace_add (slot bit : Nat) :
    slotPlace (127 + slot) bit = ⟨128 + (slotPlace slot bit).byte, (slotPlace slot bit).bit⟩ := by
  simp only [slotPlace, Nat.add_mod_left, Place.mk.injEq, and_true]
  omega

theorem byte_slotPlace_lt {slot rounds : Nat} (h : slot < 127 * rounds) (bit : Nat) :
    (slotPlace slot bit).byte < 128 * rounds := by
  have := byte_roundPlace_lt (Nat.mod_lt slot (by decide)) bit
  have : slot / 127 < rounds := Nat.div_lt_of_lt_mul h
  show 128 * (slot / 127) + _ < _
  omega

/-- **The bits of all bytes** are where they belong. -/
theorem bitAt_encodeRounds (payload : Bytes) (slot : Nat) {bit : Nat} (hbit : bit < 8) :
    (encodeRounds payload).bitAt (slotPlace slot bit) =
      (payload.getD slot 0).toNat.testBit bit := by
  fun_induction encodeRounds payload generalizing slot with
  | case1 payload h =>
    obtain rfl : payload = [] := List.isEmpty_iff.1 h
    simp [Bytes.bitAt]
  | case2 payload h chunk ih =>
    have hchunk : chunk.length = 127 := Bytes.length_resize roundSize payload
    have hf : (chunk.take 31).length = 31 := by simp [hchunk]
    have hr : (chunk.drop 31).length = 96 := by simp [hchunk]
    rcases Nat.lt_or_ge slot 127 with hlt | hge
    · have hbyte := byte_roundPlace_lt hlt bit
      have hget : chunk.getD slot 0 = payload.getD slot 0 := Bytes.getD_resize hlt payload
      rw [slotPlace_of_lt hlt, Bytes.bitAt_append (by rwa [length_encodeRound hf hr]),
        bitAt_encodeRound hf hr slot hbit, List.take_append_drop, hget]
    · obtain ⟨slot, rfl⟩ := Nat.exists_eq_add_of_le hge
      rw [slotPlace_add, Bytes.bitAt_append_add (length_encodeRound hf hr), ih slot,
        Bytes.getD_drop, roundSize]

/-- No other bit is free. -/
theorem exists_slotPlace (byte : Nat) {bit : Nat} (hbit : bit < 8) (hfree : byte % 32 = 0 → bit < 6) :
    ∃ slot, ∃ b < 8, slotPlace slot b = ⟨byte, bit⟩ := by
  obtain ⟨slot, hslot, b, hb, hplace⟩ :=
    exists_roundPlace (Nat.mod_lt byte (by decide : 128 > 0)) hbit (fun h => hfree (by omega))
  refine ⟨127 * (byte / 128) + slot, b, hb, ?_⟩
  rw [slotPlace, Nat.mul_add_div (by decide), Nat.div_eq_of_lt hslot, Nat.mul_add_mod,
    Nat.mod_eq_of_lt hslot, hplace, Nat.add_zero, Place.mk.injEq]
  exact ⟨Nat.div_add_mod byte 128, rfl⟩

/-! ## The whole blob -/

/-- The place of a bit of a byte of the payload. -/
def place (byte bit : Nat) : Place := slotPlace (4 + byte) bit

theorem encodeRounds_header (length : Nat) (payload : Bytes) :
    encodeRounds (header length ++ payload) =
      encodeRound (header length ++ (Bytes.resize firstRoundSize payload).take 27)
        ((Bytes.resize firstRoundSize payload).drop 27) ++
          encodeRounds (payload.drop firstRoundSize) := by
  have hheader := length_header length
  have hne : header length ++ payload ≠ [] := List.cons_ne_nil _ _
  have hchunk : Bytes.resize roundSize (header length ++ payload) =
      header length ++ Bytes.resize firstRoundSize payload := by
    rw [Bytes.resize, Bytes.resize, List.take_append, List.length_append, hheader,
      List.take_of_length_le (by rw [hheader]; decide), List.append_assoc, Nat.sub_add_eq]
    rfl
  have htake : (header length ++ Bytes.resize firstRoundSize payload).take 31 =
      header length ++ (Bytes.resize firstRoundSize payload).take 27 := by
    rw [List.take_append, hheader, List.take_of_length_le (by rw [hheader]; decide)]
  have hdrop (n : Nat) (bytes : Bytes) : (header length ++ bytes).drop (4 + n) = bytes.drop n := by
    rw [← hheader, List.drop_length_add_append]
  have hrest : (header length ++ payload).drop roundSize = payload.drop firstRoundSize :=
    hdrop firstRoundSize payload
  rw [encodeRounds_of_ne_nil hne, hchunk, htake, hdrop 27, hrest]

theorem encodeAll_eq (payload : Bytes) :
    encodeAll payload = encodeRounds (header payload.length ++ payload) :=
  (encodeRounds_header payload.length payload).symm

/-- What becomes of a blob, and what it must hold for that. -/
inductive Outcome (blob : Blob) : Except DecodeError Bytes → Prop
  /-- The version is not this one. -/
  | version (hversion : blob.toList.getD 1 0 ≠ 0) :
    Outcome blob (.error (.invalidVersion (blob.toList.getD 1 0)))
  /-- The announced length is too large. -/
  | length (hversion : blob.toList.getD 1 0 = 0) (hlength : 130044 < blob.announced) :
    Outcome blob (.error (.lengthTooLarge blob.announced))
  /-- The first element with a high bit, among those that the payload takes. -/
  | element (hversion : blob.toList.getD 1 0 = 0) (hlength : blob.announced ≤ 130044) {k : Nat}
    (hk : k < 4 * rounds blob.announced) (hhigh : blob.toList.getD (32 * k) 0 &&& 0b11000000 ≠ 0)
    (hclear : ∀ j < k, blob.toList.getD (32 * j) 0 &&& 0b11000000 = 0) :
    Outcome blob (.error (.invalidFieldElement k))
  /-- A payload of the announced length, whose bits stand in their places. -/
  | payload (hversion : blob.toList.getD 1 0 = 0) (hlength : blob.announced ≤ 130044)
    (hclear : ∀ k < 4 * rounds blob.announced, blob.toList.getD (32 * k) 0 &&& 0b11000000 = 0)
    {payload : Bytes} (hsize : payload.length = blob.announced)
    (hbits : ∀ i < blob.announced, ∀ j < 8,
      payload.bitAt ⟨i, j⟩ = blob.toList.bitAt (place i j)) :
    Outcome blob (.ok payload)

/-- `again` has the version and the length of `blob`, and every bit of its payload, and is zero
everywhere else. -/
structure Keeps (blob again : Blob) : Prop where
  header : ∀ n, 1 ≤ n → n < 5 → again.toList.getD n 0 = blob.toList.getD n 0
  payload : ∀ i < blob.announced, ∀ j < 8,
    again.toList.bitAt (place i j) = blob.toList.bitAt (place i j)
  rest : ∀ byte bit, bit < 8 → ¬ (1 ≤ byte ∧ byte < 5) →
    (∀ i < blob.announced, ∀ j < 8, place i j ≠ ⟨byte, bit⟩) → again.toList.bitAt ⟨byte, bit⟩ = false

/-- What is written begins with a byte and the header. -/
theorem encodeRounds_eq_cons (length : Nat) (payload : Bytes) :
    ∃ high more, encodeRounds (header length ++ payload) = high :: (header length ++ more) := by
  rw [encodeRounds_header]
  simp only [encodeRound, List.cons_append, List.append_assoc]
  exact ⟨_, _, rfl⟩

/-- The bits of a payload behind its header are in their places. -/
theorem bitAt_place (length : Nat) (payload : Bytes) (i : Nat) {j : Nat} (hj : j < 8) :
    (encodeRounds (header length ++ payload)).bitAt (place i j) = payload.bitAt ⟨i, j⟩ := by
  rw [place, bitAt_encodeRounds _ _ hj, List.getD_append_right _ _ _ _
    (by rw [length_header]; exact Nat.le_add_right ..), length_header, Nat.add_sub_cancel_left]
  rfl

/-- Of the byte behind the first run, six bits are in front of this run, and two in front of the next
one. -/
example : place 27 5 = ⟨0, 5⟩ ∧ place 27 6 = ⟨32, 4⟩ ∧ place 28 0 = ⟨33, 0⟩ := by decide

/-- The payload of an accepted blob is where it belongs. -/
theorem bitAt_of_clear {blob : Blob} {payload pad : Bytes} (hsize : payload.length = blob.announced)
    (htake : blob.toList.take (128 * rounds blob.announced) =
      encodeRounds (header blob.announced ++ (payload ++ pad)))
    (hrounds : 4 + (payload ++ pad).length = roundSize * rounds blob.announced) {i j : Nat}
    (hi : i < blob.announced) (hj : j < 8) :
    payload.bitAt ⟨i, j⟩ = blob.toList.bitAt (place i j) := by
  have hslot : 4 + i < 127 * rounds blob.announced := by
    rw [List.length_append, roundSize] at hrounds
    omega
  rw [place, ← Bytes.bitAt_take (byte_slotPlace_lt hslot j) blob.toList, htake]
  refine Eq.trans ?_ (bitAt_place blob.announced (payload ++ pad) i hj).symm
  exact (Bytes.bitAt_append (by rwa [hsize]) pad).symm

theorem outcome_decode (blob : Blob) : Outcome blob blob.decode := by
  by_cases hversion : blob.toList.getD 1 0 = version
  · rcases Nat.lt_or_ge maxPayload blob.announced with hlarge | hlength
    · rw [decode_of_lt hversion hlarge]
      exact .length hversion hlarge
    · rcases clear_or_high blob.toList (4 * rounds blob.announced) with
        hclear | ⟨k, hk, hhigh, hclear⟩
      · obtain ⟨payload, pad, hsize, hrounds, htake, hdecode⟩ :=
          decode_of_clear hversion hlength hclear
        rw [hdecode]
        exact .payload hversion hlength (fun k hk => and_highBits_eq_zero.2 (hclear k hk)) hsize
          fun i hi j hj => bitAt_of_clear hsize htake hrounds hi hj
      · rw [decode_of_high hversion hlength hk hhigh hclear]
        exact .element hversion hlength hk
          (fun h => UInt8.not_le.2 (and_highBits_eq_zero.1 h) hhigh)
          fun j hj => and_highBits_eq_zero.2 (hclear j hj)
  · rw [decode_of_version hversion]
    exact .version hversion

/-- The high bits of an element that is clear. -/
theorem bitAt_of_isClear {bytes : Bytes} (h : IsClear bytes) {byte bit : Nat}
    (hbyte : byte % 32 = 0) (hbit : 6 ≤ bit) : bytes.bitAt ⟨byte, bit⟩ = false := by
  obtain ⟨k, rfl⟩ := Nat.dvd_of_mod_eq_zero hbyte
  have hlow : (bytes.getD (32 * k) 0).toNat < 2 ^ 6 := UInt8.lt_iff_toNat_lt.1 (h k)
  exact Nat.testBit_lt_two_pow (Nat.lt_of_lt_of_le hlow (Nat.pow_le_pow_right (by decide) hbit))

/-- Every bit of what is written is a high bit of an element, a bit of the header, or a bit of the
payload, which has nothing but zeros behind it. -/
theorem bitAt_eq_false (payload : Bytes) {byte bit : Nat} (hbit : bit < 8)
    (hhead : ¬ (1 ≤ byte ∧ byte < 5))
    (hfree : ∀ i < payload.length, ∀ j < 8, place i j ≠ ⟨byte, bit⟩) :
    (encodeAll payload).bitAt ⟨byte, bit⟩ = false := by
  by_cases hhigh : byte % 32 = 0 ∧ 6 ≤ bit
  · have hclear := isClear_encodeAll_append (isClear_zeros 0) payload
    rw [List.replicate_zero, List.append_nil] at hclear
    exact bitAt_of_isClear hclear hhigh.1 hhigh.2
  · obtain ⟨slot, b, hb, hslot⟩ := exists_slotPlace byte hbit (by omega)
    have hge : 4 ≤ slot := by
      refine Nat.le_of_not_lt fun hlt => ?_
      rw [slotPlace_of_lt (by omega), roundPlace_of_ne (by omega) (by omega) (by omega)] at hslot
      cases hslot
      omega
    obtain ⟨i, rfl⟩ := Nat.exists_eq_add_of_le hge
    have hi : payload.length ≤ i := Nat.le_of_not_lt fun hi => hfree i hi b hb hslot
    rw [encodeAll_eq, ← hslot]
    refine (bitAt_place _ _ i hb).trans ?_
    rw [Bytes.bitAt, List.getD_eq_default _ _ hi]
    exact Nat.zero_testBit b

/-- What is written again. -/
theorem keeps_encode {blob : Blob} {payload : Bytes} (h : blob.decode = .ok payload) :
    ∃ again, encode payload = .ok again ∧ Keeps blob again := by
  have houtcome := outcome_decode blob
  rw [h] at houtcome
  cases houtcome with
  | payload hversion hlength hclear hsize hbits =>
    obtain ⟨again, hagain, hbytes⟩ := encode_of_le (hsize.symm ▸ hlength)
    obtain ⟨blobHigh, blobMore, hblob⟩ := exists_header hversion
    obtain ⟨high, more, hhead⟩ := encodeRounds_eq_cons blob.announced payload
    refine ⟨again, hagain, ⟨fun n hpos hn => ?_, fun i hi j hj => ?_,
      fun byte bit hbit hn hfree => ?_⟩⟩
    · obtain ⟨n, rfl⟩ := Nat.exists_eq_add_of_le' hpos
      have hin : n < (header blob.announced).length := by rw [length_header]; omega
      rw [hbytes, Bytes.getD_append_zeros, encodeAll_eq, hsize, hhead, hblob, List.getD_cons_succ,
        List.getD_cons_succ, List.getD_append _ _ _ _ hin, List.getD_append _ _ _ _ hin]
    · rw [hbytes, Bytes.bitAt_append_zeros, encodeAll_eq, bitAt_place _ _ _ hj, hbits i hi j hj]
    · rw [hbytes, Bytes.bitAt_append_zeros]
      exact bitAt_eq_false payload hbit hn (hsize.symm ▸ hfree)

/-- **The decoder accepts this format and nothing else, and reads what the length needs.**  A blob
comes to what its version, its length and the elements that its payload takes say, and the other
elements make no difference.  A reader that goes by positions never leaves the blob or its buffer.
And when the payload is written again, it is where it was, and everything else is zero. -/
theorem decode_exact (blob : Blob) :
    Outcome blob blob.decode ∧
    (∀ other : Blob, other.toList.take (32 * (4 * rounds blob.announced)) =
      blob.toList.take (32 * (4 * rounds blob.announced)) → other.decode = blob.decode) ∧
    InBounds blob.decodeAt blob.decode ∧
    ∀ payload, blob.decode = .ok payload →
      ∃ again, encode payload = .ok again ∧ Keeps blob again := by
  refine ⟨outcome_decode blob, fun other h => ?_, inBounds_decodeAt blob,
    fun payload h => keeps_encode h⟩
  simp only [← Nat.mul_assoc] at h
  exact decode_congr h

end Blob
end BatchInbox
