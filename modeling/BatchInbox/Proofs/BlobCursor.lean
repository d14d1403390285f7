import BatchInbox.Proofs.BlobReading
import BatchInbox.Proofs.Effect

/-!
# No position is out of bounds

A reader of a blob need not take its elements apart.  It can leave the blob as it is, fill a buffer
for the longest payload, and keep two positions: one in the blob, and one in the buffer.  It copies
the 31 bytes of an element, leaves out a byte behind them, and goes back after four elements to fill
in the three bytes that were gathered from their first bytes.

Nothing in such a reader says that its positions stay where there is something to read or to fill in.
Here is one that checks every position.  It never stops for one, and comes to the same as `decode`.

## What is here

* `Bytes.slice?`, `Bytes.put`, `Bytes.overwrite?` — copying, with a check.
* `Blob.Checked`, `Blob.InBounds` — computations that may be out of bounds, and those that never are.
* `Blob.gather_eq_bits` — bytes gathered bit by bit.
* `Blob.Cursor` — a buffer with two positions, and what is done with it.
* `Blob.decodeAt`, `Blob.inBounds_decodeAt` — the whole blob.
-/

set_option autoImplicit false
namespace BatchInbox

namespace Bytes

/-- The bytes from `start` up to `stop`, if they are there. -/
def slice? (start stop : Nat) (bytes : Bytes) : Option Bytes :=
  if start ≤ stop ∧ stop ≤ bytes.length then some ((bytes.drop start).take (stop - start)) else none

/-- `part` in place of as many bytes from `start` on. -/
def put (start : Nat) (part bytes : Bytes) : Bytes :=
  bytes.take start ++ (part ++ bytes.drop (start + part.length))

/-- `part` in place of as many bytes from `start` on, if they are there. -/
def overwrite? (start : Nat) (part bytes : Bytes) : Option Bytes :=
  if start + part.length ≤ bytes.length then some (put start part bytes) else none

theorem length_put {start : Nat} {part bytes : Bytes} (h : start + part.length ≤ bytes.length) :
    (put start part bytes).length = bytes.length := by
  rw [put, List.length_append, List.length_append, List.length_take, List.length_drop]
  omega

@[simp]
theorem put_nil (start : Nat) (bytes : Bytes) : put start [] bytes = bytes :=
  List.take_append_drop start bytes

/-- Pieces one behind the other are one piece. -/
theorem put_put {start : Nat} {bytes : Bytes} (h : start ≤ bytes.length) (part more : Bytes) :
    put (start + part.length) more (put start part bytes) = put start (part ++ more) bytes := by
  have hfront : (bytes.take start ++ part).length = start + part.length := by
    rw [List.length_append, List.length_take, Nat.min_eq_left h]
  have hput : put start part bytes = (bytes.take start ++ part) ++ bytes.drop (start + part.length) :=
    (List.append_assoc ..).symm
  have hdrop : ((bytes.take start ++ part) ++ bytes.drop (start + part.length)).drop
      (start + part.length + more.length) = bytes.drop (start + (part ++ more).length) := by
    rw [List.length_append, ← Nat.add_assoc, ← List.drop_drop, List.drop_left' hfront,
      List.drop_drop]
  rw [hput, put, List.take_left' hfront, hdrop, put, List.append_assoc, List.append_assoc]

/-- A byte in front of a piece is one piece with it. -/
theorem put_cons {start : Nat} {bytes : Bytes} (h : start < bytes.length) (byte : UInt8)
    (part : Bytes) : put start [byte] (put (start + 1) part bytes) = put start (byte :: part) bytes := by
  have hfront : (bytes.take (start + 1)).length = start + 1 := by
    rw [List.length_take, Nat.min_eq_left h]
  have htake : (put (start + 1) part bytes).take start = bytes.take start := by
    rw [put, List.take_append_of_le_length (by omega), List.take_take,
      Nat.min_eq_left (Nat.le_add_right ..)]
  have hdrop : (put (start + 1) part bytes).drop (start + 1) =
      part ++ bytes.drop (start + (byte :: part).length) := by
    rw [put, List.drop_left' hfront, List.length_cons, Nat.add_assoc, Nat.add_comm 1]
  rw [put, htake, List.length_singleton, hdrop]
  rfl

end Bytes

namespace Blob

/-! ## Checked computations -/

/-- A computation that gives nothing if a position is out of bounds. -/
abbrev Checked := ExceptT DecodeError Option

/-- What stands at a position, or nothing. -/
def check {α : Type} (found : Option α) : Checked α := ExceptT.lift found

/-- The position that lies so far back, if there is one. -/
def back? (distance position : Nat) : Option Nat :=
  if distance ≤ position then some (position - distance) else none

section
variable {α β γ : Type}

/-- No position is out of bounds, and the outcome is `r`. -/
def InBounds (x : Checked α) (r : Except DecodeError α) : Prop := x.run = some r

theorem InBounds.pure (a : α) : InBounds (Pure.pure a) (.ok a) := rfl

theorem InBounds.check {found : Option α} {a : α} {f : α → Checked β} {r : Except DecodeError β}
    (ha : found = some a) (hf : InBounds (f a) r) : InBounds (Blob.check found >>= f) r := by
  subst ha
  exact hf

/-- A piece that lies in the buffer is filled in. -/
theorem InBounds.write {start : Nat} {part output : Bytes} {f : Bytes → Checked β}
    {r : Except DecodeError β} (h : start + part.length ≤ output.length)
    (hf : InBounds (f (Bytes.put start part output)) r) :
    InBounds (Blob.check (Bytes.overwrite? start part output) >>= f) r :=
  InBounds.check (if_pos h) hf

/-- A position behind others has them in front of it. -/
theorem InBounds.back {distance position : Nat} {f : Nat → Checked β} {r : Except DecodeError β}
    (hf : InBounds (f position) r) :
    InBounds (Blob.check (back? distance (position + distance)) >>= f) r := by
  refine InBounds.check ?_ hf
  rw [back?, if_pos (Nat.le_add_left ..), Nat.add_sub_cancel]

/-- A computation whose outcome is `r`, seen through `m`, and then another one. -/
theorem InBounds.bind {x : Checked α} {r : Except DecodeError γ} {m : γ → α} {f : α → Checked β}
    {g : γ → Except DecodeError β} (hx : InBounds x (m <$> r))
    (hf : ∀ c, r = .ok c → InBounds (f (m c)) (g c)) : InBounds (x >>= f) (r >>= g) := by
  rw [InBounds, ExceptT.run_bind, hx]
  cases r with
  | error e => rfl
  | ok c => exact hf c rfl

end

/-! ## Bits gathered -/

/-- Six bits of a byte, and above them two bits of another one. -/
def lowSix (low high : UInt8) : UInt8 :=
  (low &&& (0b00111111 : UInt8)) ||| ((high &&& (0b00110000 : UInt8)) <<< (2 : UInt8))

/-- Four bits of a byte, and above them four bits of another one. -/
def lowFour (low high : UInt8) : UInt8 :=
  (low &&& (0b00001111 : UInt8)) ||| ((high &&& (0b00001111 : UInt8)) <<< (4 : UInt8))

/-- Bits above one another are added. -/
theorem or_eq_add {n m : Nat} {low high : UInt8} (hlow : low.toNat < 2 ^ n)
    (hhigh : high.toNat = 2 ^ n * m) : low ||| high = high + low := by
  have hor : high.toNat + low.toNat = (low ||| high).toNat := by
    rw [UInt8.toNat_or, Nat.or_comm, hhigh, Nat.two_pow_add_eq_or_of_lt hlow]
  have hfits := (low ||| high).toNat_lt
  rw [← UInt8.toNat_inj, UInt8.toNat_add, hor, Nat.mod_eq_of_lt hfits]

theorem lowSix_eq (low high : UInt8) : lowSix low high = high / 16 % 4 * 64 + low % 64 := by
  have hmask : ∀ n : Fin 256, UInt8.ofNat n &&& (0b00111111 : UInt8) = UInt8.ofNat n % 64 ∧
      (UInt8.ofNat n &&& (0b00110000 : UInt8)) <<< (2 : UInt8) = UInt8.ofNat n / 16 % 4 * 64 := by
    decide +kernel
  have hlow := (hmask ⟨low.toNat, low.toNat_lt⟩).1
  have hhigh := (hmask ⟨high.toNat, high.toNat_lt⟩).2
  simp only [UInt8.ofNat_toNat] at hlow hhigh
  rw [lowSix, hlow, hhigh]
  apply or_eq_add (n := 6) (m := high.toNat / 16 % 4)
  · rw [UInt8.toNat_mod]
    exact Nat.mod_lt _ (by decide)
  · simp only [UInt8.toNat_mul, UInt8.toNat_mod, UInt8.toNat_div, UInt8.reduceToNat]
    omega

theorem lowFour_eq (low high : UInt8) : lowFour low high = high % 16 * 16 + low % 16 := by
  have hmask : ∀ n : Fin 256, UInt8.ofNat n &&& (0b00001111 : UInt8) = UInt8.ofNat n % 16 := by
    decide +kernel
  have hlow := hmask ⟨low.toNat, low.toNat_lt⟩
  have hhigh := hmask ⟨high.toNat, high.toNat_lt⟩
  simp only [UInt8.ofNat_toNat] at hlow hhigh
  have hshift : (high % 16) <<< (4 : UInt8) = high % 16 * 16 := by
    have hall : ∀ n : Fin 256, (UInt8.ofNat n % 16) <<< (4 : UInt8) = UInt8.ofNat n % 16 * 16 := by
      decide +kernel
    simpa using hall ⟨high.toNat, high.toNat_lt⟩
  rw [lowFour, hlow, hhigh, hshift]
  apply or_eq_add (n := 4) (m := high.toNat % 16)
  · rw [UInt8.toNat_mod]
    exact Nat.mod_lt _ (by decide)
  · simp only [UInt8.toNat_mul, UInt8.toNat_mod, UInt8.reduceToNat]
    omega

/-- **The bytes that are gathered**, bit by bit. -/
theorem gather_eq_bits (a b c d : UInt8) :
    gather a b c d = (lowSix a b, lowFour b d, lowSix c d) := by
  rw [gather, lowSix_eq, lowFour_eq, lowSix_eq]

/-! ## Two positions -/

/-- A buffer for a payload, the position in it that is filled in next, and the position in the blob
that is read next. -/
structure Cursor where
  output : Bytes
  outputAt : Nat
  inputAt : Nat

namespace Cursor

/-- Copies the 31 bytes of an element, and gives its first byte. -/
def readElement (blob : Blob) (cursor : Cursor) : Checked (UInt8 × Cursor) := do
  let high ← check blob.toList[cursor.inputAt]?
  if high &&& 0b11000000 ≠ 0 then throw (.invalidFieldElement (cursor.inputAt / 32))
  let run ← check (Bytes.slice? (cursor.inputAt + 1) (cursor.inputAt + 32) blob.toList)
  let output ← check (Bytes.overwrite? cursor.outputAt run cursor.output)
  return (high, ⟨output, cursor.outputAt + 32, cursor.inputAt + 32⟩)

/-- Goes back, and fills in the bytes that are gathered from four first bytes. -/
def reassemble (a b c d : UInt8) (cursor : Cursor) : Checked Cursor := do
  let outputAt ← check (back? 1 cursor.outputAt)
  let third ← check (back? 32 outputAt)
  let output ← check (Bytes.overwrite? third [lowSix c d] cursor.output)
  let second ← check (back? 64 outputAt)
  let output ← check (Bytes.overwrite? second [lowFour b d] output)
  let first ← check (back? 96 outputAt)
  let output ← check (Bytes.overwrite? first [lowSix a b] output)
  return ⟨output, outputAt, cursor.inputAt⟩

/-- The three elements behind the first one of a round, whose first byte is `a`. -/
def readRest (blob : Blob) (a : UInt8) (cursor : Cursor) : Checked Cursor := do
  let (b, cursor) ← cursor.readElement blob
  let (c, cursor) ← cursor.readElement blob
  let (d, cursor) ← cursor.readElement blob
  cursor.reassemble a b c d

/-- At most so many rounds, until `length` bytes of the buffer are filled in. -/
def readRounds (blob : Blob) (length : Nat) : (rounds : Nat) → Cursor → Checked Bytes
  | 0, cursor => return cursor.output
  | rounds + 1, cursor => do
    if length ≤ cursor.outputAt then return cursor.output
    let (a, cursor) ← cursor.readElement blob
    let cursor ← cursor.readRest blob a
    cursor.readRounds blob length rounds

end Cursor

/-- So many bytes of the payload.  The first element holds 27 of them. -/
def readPayload (blob : Blob) (length : Nat) : Checked Bytes := do
  let first ← check (Bytes.slice? 5 32 blob.toList)
  let output ← check (Bytes.overwrite? 0 first (List.replicate maxPayload 0))
  let a ← check blob.toList[0]?
  if a &&& 0b11000000 ≠ 0 then throw (.invalidFieldElement 0)
  let cursor ← Cursor.readRest blob a ⟨output, 28, 32⟩
  let output ← cursor.readRounds blob length 1023
  return output.take length

/-- The payload of a blob, read through a buffer. -/
def decodeAt (blob : Blob) : Checked Bytes := do
  let given ← check blob.toList[1]?
  if given ≠ version then throw (.invalidVersion given)
  let high ← check blob.toList[2]?
  let middle ← check blob.toList[3]?
  let low ← check blob.toList[4]?
  let length := Bytes.toNat [high, middle, low]
  if maxPayload < length then throw (.lengthTooLarge length)
  readPayload blob length

/-! ## Elements and rounds -/

theorem readElement_eq_ok {index : Nat} {bytes : Bytes} {first : UInt8} {run rest : Bytes}
    (h : Blob.readElement index bytes = .ok (first, run, rest)) :
    run.length = 31 ∧ rest = bytes.drop 32 := by
  rw [Blob.readElement] at h
  split at h
  · rename_i hsplit
    split at h
    · cases h
    · cases h
      obtain ⟨rfl, hlength⟩ := Bytes.split?_eq_some.1 hsplit
      exact ⟨Nat.succ.inj hlength, (List.drop_left' hlength).symm⟩
  · cases h

/-- An element is read at its position, and copied to the position behind what has been filled in. -/
theorem inBounds_readElement (blob : Blob) {output : Bytes} {outputAt index : Nat}
    (hindex : index < 4096) (hroom : outputAt + 31 ≤ output.length) :
    InBounds (Cursor.readElement blob ⟨output, outputAt, 32 * index⟩)
      ((fun (first, run, _) =>
        (first, ⟨Bytes.put outputAt run output, outputAt + 32, 32 * (index + 1)⟩)) <$>
          Blob.readElement index (blob.toList.drop (32 * index))) := by
  have hsize : (blob.toList.drop (32 * index)).length = 32 + (131040 - 32 * index) := by
    rw [List.length_drop, blob.length_toList]
    omega
  obtain ⟨first, run, rest, hrun, hrest, hdrop⟩ := exists_element hsize
  have hfirst : blob.toList[32 * index]? = some first := by
    rw [← Nat.add_zero (32 * index), ← List.getElem?_drop, hdrop]
    rfl
  have hslice : Bytes.slice? (32 * index + 1) (32 * index + 32) blob.toList = some run := by
    rw [Bytes.slice?, if_pos (by rw [blob.length_toList]; omega), ← List.drop_drop, hdrop,
      List.cons_append, List.drop_succ_cons, List.drop_zero, List.take_left' (by omega)]
  rw [Cursor.readElement, hdrop]
  refine InBounds.check hfirst ?_
  by_cases hclear : first < 64
  · rw [readElement_append hclear hrun, if_neg (not_not_intro (and_highBits_eq_zero.2 hclear))]
    exact InBounds.check hslice (InBounds.write (by rw [hrun]; exact hroom) (InBounds.pure _))
  · have hhigh : first &&& 0b11000000 ≠ 0 := fun h => hclear (and_highBits_eq_zero.1 h)
    have hrefused : Blob.readElement index (first :: run ++ rest) =
        .error (.invalidFieldElement index) :=
      readElement_of_high index (by simp [hrun]) (UInt8.not_lt.1 hclear)
    rw [if_pos hhigh, hrefused, Nat.mul_div_cancel_left _ (by decide)]
    rfl

/-- An element is read, and then what stands behind it. -/
theorem InBounds.element {β : Type} {blob : Blob} {output : Bytes} {outputAt index : Nat}
    {f : UInt8 × Cursor → Checked β} {g : UInt8 × Bytes × Bytes → Except DecodeError β}
    (hindex : index < 4096) (hroom : outputAt + 31 ≤ output.length)
    (hf : ∀ first run, run.length = 31 → InBounds
      (f (first, ⟨Bytes.put outputAt run output, outputAt + 32, 32 * (index + 1)⟩))
      (g (first, run, blob.toList.drop (32 * (index + 1))))) :
    InBounds (Cursor.readElement blob ⟨output, outputAt, 32 * index⟩ >>= f)
      (Blob.readElement index (blob.toList.drop (32 * index)) >>= g) := by
  refine (inBounds_readElement blob hindex hroom).bind ?_
  rintro ⟨first, run, rest⟩ hread
  obtain ⟨hrun, rfl⟩ := readElement_eq_ok hread
  rw [List.drop_drop]
  exact hf first run hrun

/-- Three runs of 31 bytes, and then the bytes in front of them, are one piece of 96 bytes. -/
theorem put_rest {start : Nat} {output r₁ r₂ r₃ : Bytes} (h₁ : r₁.length = 31)
    (h₂ : r₂.length = 31) (hroom : start + 96 ≤ output.length) (x y z : UInt8) :
    Bytes.put start [x] (Bytes.put (start + 32) [y] (Bytes.put (start + 64) [z]
      (Bytes.put (start + 65) r₃ (Bytes.put (start + 33) r₂ (Bytes.put (start + 1) r₁ output))))) =
      Bytes.put start (x :: r₁ ++ y :: r₂ ++ z :: r₃) output := by
  have hlength₁ : (Bytes.put (start + 1) r₁ output).length = output.length :=
    Bytes.length_put (by omega)
  have hlength₂ : (Bytes.put (start + 33) r₂ (Bytes.put (start + 1) r₁ output)).length =
      output.length := (Bytes.length_put (by omega)).trans hlength₁
  -- From the last run to the first byte, every piece goes in front of what is there.
  have hz := Bytes.put_cons (by omega : start + 64 <
    (Bytes.put (start + 33) r₂ (Bytes.put (start + 1) r₁ output)).length) z r₃
  have hr₂ := Bytes.put_put (by omega : start + 33 ≤ (Bytes.put (start + 1) r₁ output).length)
    r₂ (z :: r₃)
  have hy := Bytes.put_cons (by omega : start + 32 < (Bytes.put (start + 1) r₁ output).length) y
    (r₂ ++ z :: r₃)
  have hr₁ := Bytes.put_put (by omega : start + 1 ≤ output.length) r₁ (y :: (r₂ ++ z :: r₃))
  have hx := Bytes.put_cons (by omega : start < output.length) x (r₁ ++ y :: (r₂ ++ z :: r₃))
  simp only [h₁, h₂, Nat.add_assoc, Nat.reduceAdd] at hz hr₂ hy hr₁ hx
  rw [hz, hr₂, hy, hr₁, hx]
  simp only [List.cons_append, List.append_assoc]

theorem inBounds_reassemble {output : Bytes} {start : Nat} (hroom : start + 96 ≤ output.length)
    (inputAt : Nat) (a b c d : UInt8) :
    InBounds (Cursor.reassemble a b c d ⟨output, start + 97, inputAt⟩)
      (.ok ⟨Bytes.put start [lowSix a b] (Bytes.put (start + 32) [lowFour b d]
        (Bytes.put (start + 64) [lowSix c d] output)), start + 96, inputAt⟩) := by
  have hthird : (Bytes.put (start + 64) [lowSix c d] output).length = output.length :=
    Bytes.length_put (by rw [List.length_singleton]; omega)
  have hsecond : (Bytes.put (start + 32) [lowFour b d]
      (Bytes.put (start + 64) [lowSix c d] output)).length = output.length :=
    (Bytes.length_put (by rw [List.length_singleton, hthird]; omega)).trans hthird
  refine InBounds.back (InBounds.back (InBounds.write ?_ ?_))
  · show start + 64 + 1 ≤ output.length
    omega
  refine InBounds.back (InBounds.write ?_ ?_)
  · rw [List.length_singleton, hthird]
    omega
  refine InBounds.back (InBounds.write ?_ (InBounds.pure _))
  rw [List.length_singleton, hsecond]
  omega

/-- The 96 bytes behind the first element of a round, whose first byte is `a`. -/
def restOfRound (index : Nat) (a : UInt8) (bytes : Bytes) : Except DecodeError (Bytes × Bytes) := do
  let (b, run₁, bytes) ← Blob.readElement index bytes
  let (c, run₂, bytes) ← Blob.readElement (index + 1) bytes
  let (d, run₃, bytes) ← Blob.readElement (index + 2) bytes
  let (x, y, z) := gather a b c d
  return (x :: run₁ ++ y :: run₂ ++ z :: run₃, bytes)

theorem readRound_eq (index : Nat) (bytes : Bytes) :
    readRound index bytes = do
      let (a, first, bytes) ← Blob.readElement index bytes
      let (rest, bytes) ← restOfRound (index + 1) a bytes
      return (first, rest, bytes) := by
  simp only [readRound, restOfRound, bind_assoc, pure_bind]

/-- The elements behind the first one of a round fill in the 96 bytes from `start` on. -/
theorem inBounds_readRest (blob : Blob) {output : Bytes} {start index : Nat}
    (hindex : index + 3 ≤ 4096) (hroom : start + 96 ≤ output.length) (a : UInt8) :
    InBounds (Cursor.readRest blob a ⟨output, start + 1, 32 * index⟩)
      ((fun (rest, _) => ⟨Bytes.put start rest output, start + 96, 32 * (index + 3)⟩) <$>
        restOfRound index a (blob.toList.drop (32 * index))) := by
  simp only [Cursor.readRest, restOfRound, map_bind]
  refine InBounds.element (by omega) (by omega) fun b run₁ hrun₁ => ?_
  have hlength₁ : (Bytes.put (start + 1) run₁ output).length = output.length :=
    Bytes.length_put (by omega)
  refine InBounds.element (by omega) (by omega) fun c run₂ hrun₂ => ?_
  have hlength₂ : (Bytes.put (start + 1 + 32) run₂ (Bytes.put (start + 1) run₁ output)).length =
      output.length := (Bytes.length_put (by omega)).trans hlength₁
  refine InBounds.element (by omega) (by omega) fun d run₃ hrun₃ => ?_
  have hlength₃ : (Bytes.put (start + 1 + 32 + 32) run₃ (Bytes.put (start + 1 + 32) run₂
      (Bytes.put (start + 1) run₁ output))).length = output.length :=
    (Bytes.length_put (by omega)).trans hlength₂
  have hend := inBounds_reassemble (hlength₃.symm ▸ hroom) (32 * (index + 3)) a b c d
  rw [put_rest hrun₁ hrun₂ hroom] at hend
  rw [gather_eq_bits]
  exact hend

theorem restOfRound_eq_ok {index : Nat} {a : UInt8} {bytes rest bytes' : Bytes}
    (h : restOfRound index a bytes = .ok (rest, bytes')) :
    rest.length = 96 ∧ bytes' = bytes.drop 96 := by
  obtain ⟨⟨b, run₁, bytes₁⟩, h₁, h⟩ := bind_eq_ok.1 h
  obtain ⟨⟨c, run₂, bytes₂⟩, h₂, h⟩ := bind_eq_ok.1 h
  obtain ⟨⟨d, run₃, bytes₃⟩, h₃, h⟩ := bind_eq_ok.1 h
  obtain ⟨hrun₁, rfl⟩ := readElement_eq_ok h₁
  obtain ⟨hrun₂, rfl⟩ := readElement_eq_ok h₂
  obtain ⟨hrun₃, rfl⟩ := readElement_eq_ok h₃
  cases h
  refine ⟨by simp [hrun₁, hrun₂, hrun₃], ?_⟩
  rw [List.drop_drop, List.drop_drop]

/-- Rounds are read at their positions, and fill in the buffer behind what has been filled in. -/
theorem inBounds_readRounds (blob : Blob) (length : Nat) {rounds index outputAt : Nat}
    {output : Bytes} (hindex : index + 4 * rounds ≤ 4096)
    (hroom : outputAt + roundSize * rounds ≤ output.length) :
    InBounds (Cursor.readRounds blob length rounds ⟨output, outputAt, 32 * index⟩)
      ((fun chunks => Bytes.put outputAt chunks output) <$>
        Blob.readRounds length rounds outputAt index (blob.toList.drop (32 * index))) := by
  induction rounds generalizing index outputAt output with
  | zero =>
    show InBounds _ (.ok (Bytes.put outputAt [] output))
    rw [Bytes.put_nil]
    exact InBounds.pure _
  | succ rounds ih =>
    rw [Cursor.readRounds, Blob.readRounds]
    by_cases hdone : length ≤ outputAt
    · simp only [if_pos hdone]
      show InBounds _ (.ok (Bytes.put outputAt [] output))
      rw [Bytes.put_nil]
      exact InBounds.pure _
    · simp only [if_neg hdone, readRound_eq, map_bind, bind_assoc, pure_bind]
      rw [roundSize] at hroom ih
      refine InBounds.element (by omega) (by omega) fun a run hrun => ?_
      have hlength : (Bytes.put outputAt run output).length = output.length :=
        Bytes.length_put (by omega)
      have hrest : InBounds _ _ := inBounds_readRest blob (by omega : index + 1 + 3 ≤ 4096)
        (by omega : outputAt + 31 + 96 ≤ (Bytes.put outputAt run output).length) a
      refine hrest.bind ?_
      rintro ⟨rest, bytes⟩ hread
      obtain ⟨hsize, rfl⟩ := restOfRound_eq_ok hread
      have hround : Bytes.put (outputAt + 31) rest (Bytes.put outputAt run output) =
          Bytes.put outputAt (run ++ rest) output := by
        rw [← hrun, Bytes.put_put (by omega)]
      have hlength' : (Bytes.put outputAt (run ++ rest) output).length = output.length :=
        Bytes.length_put (by rw [List.length_append]; omega)
      have hput (more : Bytes) :
          Bytes.put (outputAt + 127) more (Bytes.put outputAt (run ++ rest) output) =
            Bytes.put outputAt (run ++ rest ++ more) output := by
        rw [← Bytes.put_put (by omega) (run ++ rest), List.length_append, hrun, hsize]
      have hmore := ih (by omega : index + 4 + 4 * rounds ≤ 4096)
        (by omega : outputAt + 127 + 127 * rounds ≤ (Bytes.put outputAt (run ++ rest) output).length)
      simp only [hput] at hmore
      simp only [hround, map_pure, bind_pure_comp, List.drop_drop]
      exact hmore

theorem readRound_eq_ok {index : Nat} {bytes first rest bytes' : Bytes}
    (h : readRound index bytes = .ok (first, rest, bytes')) :
    first.length = 31 ∧ rest.length = 96 := by
  rw [readRound_eq] at h
  obtain ⟨⟨a, run, bytes₁⟩, h₁, h⟩ := bind_eq_ok.1 h
  obtain ⟨⟨rest, bytes₂⟩, h₂, h⟩ := bind_eq_ok.1 h
  cases h
  exact ⟨(readElement_eq_ok h₁).1, (restOfRound_eq_ok h₂).1⟩

/-- Rounds that are read are enough for the announced length, if there are enough of them. -/
theorem le_of_readRounds {length rounds written index : Nat} {bytes chunks : Bytes}
    (h : Blob.readRounds length rounds written index bytes = .ok chunks)
    (henough : length ≤ written + roundSize * rounds) : length ≤ written + chunks.length := by
  induction rounds generalizing written index bytes chunks with
  | zero => omega
  | succ rounds ih =>
    rw [Blob.readRounds] at h
    by_cases hdone : length ≤ written
    · omega
    · rw [if_neg hdone] at h
      obtain ⟨⟨first, rest, bytes'⟩, hround, h⟩ := bind_eq_ok.1 h
      obtain ⟨more, hmore, h⟩ := bind_eq_ok.1 h
      obtain ⟨hfirst, hrest⟩ := readRound_eq_ok hround
      cases h
      have hle := ih hmore (by rw [Nat.mul_succ] at henough; omega)
      rw [List.length_append, List.length_append, hfirst, hrest]
      rw [roundSize] at hle
      omega

/-! ## The whole blob -/

/-- All rounds behind the first element fill in the buffer behind the 27 bytes that are there. -/
theorem inBounds_rounds (blob : Blob) {length : Nat} (hlength : length ≤ maxPayload)
    {first zeros : Bytes} (hfirst : first.length = 27) (hzeros : zeros.length = maxPayload)
    (a : UInt8) :
    InBounds (do
        let cursor ← Cursor.readRest blob a ⟨Bytes.put 0 first zeros, 27 + 1, 32 * 1⟩
        let output ← cursor.readRounds blob length 1023
        return output.take length)
      (do
        let (rest, bytes) ← restOfRound 1 a (blob.toList.drop (32 * 1))
        let more ← readRounds length 1023 firstRoundSize 4 bytes
        return (first ++ rest ++ more).take length) := by
  rw [maxPayload, roundSize] at *
  have hsize : (Bytes.put 0 first zeros).length = 130044 :=
    (Bytes.length_put (by omega)).trans hzeros
  have hrest : InBounds _ _ := inBounds_readRest blob (by omega : 1 + 3 ≤ 4096)
    (by omega : 27 + 96 ≤ (Bytes.put 0 first zeros).length) a
  refine hrest.bind ?_
  rintro ⟨rest, bytes⟩ hread
  obtain ⟨hrest, rfl⟩ := restOfRound_eq_ok hread
  have hput : Bytes.put 27 rest (Bytes.put 0 first zeros) = Bytes.put 0 (first ++ rest) zeros := by
    rw [← Bytes.put_put (Nat.zero_le _), Nat.zero_add, hfirst]
  have hround : (first ++ rest).length = 123 := by rw [List.length_append, hfirst, hrest]
  have hsize' : (Bytes.put 0 (first ++ rest) zeros).length = 130044 :=
    (Bytes.length_put (by omega)).trans hzeros
  have hmore : InBounds _ _ := inBounds_readRounds blob length (by omega : 4 + 4 * 1023 ≤ 4096)
    (by rw [hsize', roundSize] : 123 + roundSize * 1023 ≤ (Bytes.put 0 (first ++ rest) zeros).length)
  simp only [hput, List.drop_drop]
  refine hmore.bind fun chunks hchunks => ?_
  have hall := le_of_readRounds hchunks (by rw [roundSize]; omega)
  have htake : (Bytes.put 123 chunks (Bytes.put 0 (first ++ rest) zeros)).take length =
      (first ++ rest ++ chunks).take length := by
    rw [← hround, ← Nat.zero_add (List.length _), Bytes.put_put (Nat.zero_le _), Bytes.put,
      List.take_zero, List.nil_append, List.take_append_of_le_length]
    rw [List.length_append, hround]
    exact hall
  rw [htake]
  exact InBounds.pure _

theorem inBounds_readPayload (blob : Blob) {length : Nat} (hlength : length ≤ maxPayload) :
    InBounds (blob.readPayload length) (do
      let (first, rest, bytes) ← readRound 0 blob.toList
      let more ← readRounds length 1023 firstRoundSize 4 bytes
      return (first.drop 4 ++ rest ++ more).take length) := by
  obtain ⟨a, given, high, middle, low, tail, hbytes⟩ := exists_head blob
  have hsize := blob.length_toList
  have hfirst : (tail.take 27).length = 27 := by
    rw [hbytes] at hsize
    simp only [List.length_cons] at hsize
    rw [List.length_take]
    omega
  have hslice : Bytes.slice? 5 32 blob.toList = some (tail.take 27) := by
    rw [Bytes.slice?, if_pos (by omega), hbytes]
    rfl
  have hzeros : (List.replicate maxPayload (0 : UInt8)).length = maxPayload :=
    List.length_replicate
  refine InBounds.check hslice (InBounds.write ?_ ?_)
  · rw [hzeros, hfirst]
    decide
  refine InBounds.check (by rw [hbytes]; rfl : blob.toList[0]? = some a) ?_
  rw [readRound_eq]
  by_cases hclear : a < 64
  · have hdrop : blob.toList.drop (32 * 1) = tail.drop 27 := by
      rw [hbytes]
      rfl
    have helement : blob.toList =
        (a :: given :: high :: middle :: low :: tail.take 27) ++ tail.drop 27 := by
      simp only [hbytes, List.cons_append, List.take_append_drop]
    have hread : readElement 0 blob.toList = pure (a,
        given :: high :: middle :: low :: tail.take 27, blob.toList.drop (32 * 1)) := by
      rw [hdrop, helement]
      exact readElement_append hclear (by simp only [List.length_cons, hfirst])
    rw [if_neg (not_not_intro (and_highBits_eq_zero.2 hclear)), hread]
    simp only [bind_assoc, pure_bind]
    exact inBounds_rounds blob hlength hfirst hzeros a
  · have hrefused : readElement 0 blob.toList = .error (.invalidFieldElement 0) :=
      readElement_of_high 0 (by omega) (by rw [hbytes]; exact UInt8.not_lt.1 hclear)
    rw [if_pos fun h => hclear (and_highBits_eq_zero.1 h), hrefused]
    rfl

/-- **No position is out of bounds**, whatever a blob holds, and a reader with a buffer comes to what
`decode` says. -/
theorem inBounds_decodeAt (blob : Blob) : InBounds blob.decodeAt blob.decode := by
  obtain ⟨a, given, high, middle, low, tail, hbytes⟩ := exists_head blob
  have hgiven : blob.toList.getD 1 0 = given := by rw [hbytes]; rfl
  have hannounced : blob.announced = Bytes.toNat [high, middle, low] := by rw [announced, hbytes]; rfl
  refine InBounds.check (by rw [hbytes]; rfl : blob.toList[1]? = some given) ?_
  by_cases hversion : given = version
  · rw [if_neg (not_not_intro hversion)]
    refine InBounds.check (by rw [hbytes]; rfl : blob.toList[2]? = some high) ?_
    refine InBounds.check (by rw [hbytes]; rfl : blob.toList[3]? = some middle) ?_
    refine InBounds.check (by rw [hbytes]; rfl : blob.toList[4]? = some low) ?_
    rw [← hannounced]
    by_cases hlarge : maxPayload < blob.announced
    · simp only [if_pos hlarge]
      rw [decode_of_lt (hgiven.trans hversion) hlarge]
      rfl
    · simp only [if_neg hlarge]
      rw [decode_eq (hgiven.trans hversion) (Nat.not_lt.1 hlarge)]
      exact inBounds_readPayload blob (Nat.not_lt.1 hlarge)
  · rw [if_pos hversion, decode_of_version (hgiven.trans_ne hversion), hgiven]
    rfl

end Blob
end BatchInbox
