import BatchInbox.Bytes

/-!
# Text in bytes that may be no text

Bytes that are shown to somebody are read as UTF-8.  What is no UTF-8 is left out, with a mark in its
place: one for the bytes that a character begins with, as far as they go, and one for every byte that
begins no character.

## What is here

* `Utf8.State`, `Utf8.next` — where in a character the text is, and how a byte goes on with it.
* `Bytes.lossyText` — the text; `Bytes.lossyText_encode` says that text is shown as it is.
-/

set_option autoImplicit false
namespace BatchInbox
namespace Utf8

/-- Where in a character the text is. -/
inductive State where
  | between
  /-- Behind bytes that stand for `value`, with `more` to come, of which the first is not below `low`
  and below `high`. -/
  | inside (value more low high : Nat)
  deriving DecidableEq, Repr

/-- The mark for what is no text. -/
def mark : Char := Char.ofNat 0xfffd

/-- How a byte begins a character.  A character is not written with more bytes than it takes, and a
surrogate is none. -/
def start (b : UInt8) : List Char × State :=
  let n := b.toNat
  if n < 0x80 then ([Char.ofNat n], .between)
  else if 0xc2 ≤ n ∧ n < 0xe0 then ([], .inside (n - 0xc0) 1 0x80 0xc0)
  else if 0xe0 ≤ n ∧ n < 0xf0 then
    ([], .inside (n - 0xe0) 2 (if n = 0xe0 then 0xa0 else 0x80) (if n = 0xed then 0xa0 else 0xc0))
  else if 0xf0 ≤ n ∧ n < 0xf5 then
    ([], .inside (n - 0xf0) 3 (if n = 0xf0 then 0x90 else 0x80) (if n = 0xf4 then 0x90 else 0xc0))
  else ([mark], .between)

/-- How a byte goes on with the text. -/
def next (state : State) (b : UInt8) : List Char × State :=
  match state with
  | .between => start b
  | .inside value more low high =>
    if low ≤ b.toNat ∧ b.toNat < high then
      let value := 64 * value + (b.toNat - 0x80)
      if more ≤ 1 then ([Char.ofNat value], .between) else ([], .inside value (more - 1) 0x80 0xc0)
    else
      let (chars, state) := start b
      (mark :: chars, state)

/-- The text of bytes that go on with one. -/
def textFrom (state : State) : Bytes → List Char
  | [] => if state = .between then [] else [mark]
  | b :: bytes => (next state b).1 ++ textFrom (next state b).2 bytes

/-! ## The bytes of a character -/

theorem textFrom_one {n : Nat} (h : n < 0x80) (bytes : Bytes) :
    textFrom .between (UInt8.ofNat n :: bytes) = Char.ofNat n :: textFrom .between bytes := by
  have hbyte : (UInt8.ofNat n).toNat = n := by simp; omega
  rw [textFrom, next, start, hbyte, if_pos h]
  rfl

theorem textFrom_two {n : Nat} (hlow : 2 ≤ n) (hhigh : n < 32) (bytes : Bytes) :
    textFrom .between (UInt8.ofNat (n + 192) :: bytes) = textFrom (.inside n 1 0x80 0xc0) bytes := by
  have hbyte : (UInt8.ofNat (n + 192)).toNat = n + 192 := by simp; omega
  rw [textFrom, next, start, hbyte, if_neg (by omega), if_pos (by omega), Nat.add_sub_cancel]
  rfl

theorem textFrom_three {n : Nat} (h : n < 16) (bytes : Bytes) :
    textFrom .between (UInt8.ofNat (n + 224) :: bytes) =
      textFrom (.inside n 2 (if n = 0 then 0xa0 else 0x80) (if n = 13 then 0xa0 else 0xc0)) bytes := by
  have hbyte : (UInt8.ofNat (n + 224)).toNat = n + 224 := by simp; omega
  rw [textFrom, next, start, hbyte, if_neg (by omega), if_neg (by omega), if_pos (by omega),
    Nat.add_sub_cancel]
  simp

theorem textFrom_four {n : Nat} (h : n < 5) (bytes : Bytes) :
    textFrom .between (UInt8.ofNat (n + 240) :: bytes) =
      textFrom (.inside n 3 (if n = 0 then 0x90 else 0x80) (if n = 4 then 0x90 else 0xc0)) bytes := by
  have hbyte : (UInt8.ofNat (n + 240)).toNat = n + 240 := by simp; omega
  rw [textFrom, next, start, hbyte, if_neg (by omega), if_neg (by omega), if_neg (by omega),
    if_pos (by omega), Nat.add_sub_cancel]
  simp

/-- A byte behind the first one of a character. -/
theorem textFrom_more {value more low high n : Nat} (hn : n < 64) (hlow : low ≤ n + 128)
    (hhigh : n + 128 < high) (bytes : Bytes) :
    textFrom (.inside value more low high) (UInt8.ofNat (n + 128) :: bytes) =
      if more ≤ 1 then Char.ofNat (64 * value + n) :: textFrom .between bytes
      else textFrom (.inside (64 * value + n) (more - 1) 0x80 0xc0) bytes := by
  have hbyte : (UInt8.ofNat (n + 128)).toNat = n + 128 := by simp; omega
  rw [textFrom, next, hbyte, if_pos ⟨hlow, hhigh⟩, Nat.add_sub_cancel]
  by_cases hmore : more ≤ 1 <;> simp [hmore]

/-- A character is read back, however many bytes it takes. -/
theorem textFrom_encode (c : Char) (bytes : Bytes) :
    textFrom .between (String.utf8EncodeChar c ++ bytes) = c :: textFrom .between bytes := by
  have hc : Char.ofNat c.val.toNat = c := Char.ofNat_toNat c
  have hvalid : c.val.toNat < 0xd800 ∨ 0xdfff < c.val.toNat ∧ c.val.toNat < 0x110000 := c.valid
  simp only [String.utf8EncodeChar]
  generalize c.val.toNat = v at hc hvalid
  split
  · rw [List.singleton_append, textFrom_one (by omega), hc]
  split
  · show textFrom .between (_ :: _ :: bytes) = _
    rw [textFrom_two (by omega) (by omega), textFrom_more (by omega) (by omega) (by omega),
      if_pos (by omega), show 64 * (v / 64 % 32) + v % 64 = v by omega, hc]
  split
  · show textFrom .between (_ :: _ :: _ :: bytes) = _
    rw [textFrom_three (by omega), textFrom_more (by omega) (by split <;> omega)
      (by split <;> omega), if_neg (by omega), textFrom_more (by omega) (by omega) (by omega),
      if_pos (by omega),
      show 64 * (64 * (v / 4096 % 16) + v / 64 % 64) + v % 64 = v by omega, hc]
  · show textFrom .between (_ :: _ :: _ :: _ :: bytes) = _
    rw [textFrom_four (by omega), textFrom_more (by omega) (by split <;> omega)
      (by split <;> omega), if_neg (by omega), textFrom_more (by omega) (by omega) (by omega),
      if_neg (by omega), textFrom_more (by omega) (by omega) (by omega), if_pos (by omega),
      show 64 * (64 * (64 * (v / 262144 % 8) + v / 4096 % 64) + v / 64 % 64) + v % 64 = v by omega,
      hc]

end Utf8

/-- The text that bytes are shown as. -/
def Bytes.lossyText (bytes : Bytes) : List Char := Utf8.textFrom .between bytes

/-- **Text is shown as it is.** -/
theorem Bytes.lossyText_encode (text : List Char) :
    Bytes.lossyText (text.flatMap String.utf8EncodeChar) = text := by
  induction text with
  | nil => rfl
  | cons c text ih => rw [List.flatMap_cons, lossyText, Utf8.textFrom_encode, ← lossyText, ih]

end BatchInbox
