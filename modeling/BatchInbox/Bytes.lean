/-!
# Byte strings

Everything that travels between the batcher, L1 and the L2 chain is a string of bytes.  Short
identifiers of a fixed length (hashes, addresses, channel ids) are `BytesN`, ordered like their
bytes; numbers inside byte strings are big-endian.

## What is here

* `Bytes`, `BytesN` — byte strings, and those of a fixed length.
* `Bytes.toHex`, `Bytes.ofHex?` — hexadecimal text; `ofHex?_toHex` says that it reads back.
* `Bytes.toNat`, `Bytes.ofNat` — big-endian numbers; `toNat_ofNat` and `ofNat_toNat` say that they
  read back.
-/

set_option autoImplicit false
namespace BatchInbox

/-- A string of bytes. -/
abbrev Bytes := List UInt8

namespace Bytes

/-! ## Hexadecimal text -/

/-- The lower-case digit for a value below 16. -/
def hexDigit (value : Nat) : Char :=
  if value < 10 then Char.ofNat (48 + value) else Char.ofNat (87 + value)

/-- The value of a digit of either case. -/
def hexValue? (c : Char) : Option Nat :=
  let n := c.toNat
  if 48 ≤ n ∧ n ≤ 57 then some (n - 48)
  else if 97 ≤ n ∧ n ≤ 102 then some (n - 87)
  else if 65 ≤ n ∧ n ≤ 70 then some (n - 55)
  else none

/-- Two lower-case digits per byte. -/
def toHexChars (bytes : Bytes) : List Char :=
  bytes.flatMap fun b => [hexDigit (b.toNat / 16), hexDigit (b.toNat % 16)]

/-- Two lower-case digits per byte. -/
def toHex (bytes : Bytes) : String :=
  String.ofList bytes.toHexChars

/-- Appends the bytes that pairs of digits stand for to `acc`, which is in reverse. -/
def ofHexChars (acc : Bytes) : List Char → Option Bytes
  | [] => some acc.reverse
  | [_] => none
  | high :: low :: rest =>
    match hexValue? high, hexValue? low with
    | some h, some l => ofHexChars ((16 * h + l).toUInt8 :: acc) rest
    | _, _ => none

/-- Reads pairs of digits of either case. -/
def ofHex? (text : String) : Option Bytes :=
  ofHexChars [] text.toList

theorem hexValue?_hexDigit {n : Nat} (h : n < 16) : hexValue? (hexDigit n) = some n := by
  have : ∀ n : Fin 16, hexValue? (hexDigit n) = some n.1 := by decide
  exact this ⟨n, h⟩

theorem ofHexChars_toHexChars (acc bytes : Bytes) :
    ofHexChars acc bytes.toHexChars = some (acc.reverse ++ bytes) := by
  induction bytes generalizing acc with
  | nil => simp [toHexChars, ofHexChars]
  | cons b bytes ih =>
    have hb := b.toNat_lt
    have hsplit : (16 * (b.toNat / 16) + b.toNat % 16).toUInt8 = b := by
      rw [Nat.div_add_mod]
      simp
    have := ih (b :: acc)
    simp only [toHexChars, List.flatMap_cons, List.cons_append, List.nil_append, ofHexChars] at *
    rw [hexValue?_hexDigit (by omega), hexValue?_hexDigit (by omega)]
    simp only [hsplit, this, List.reverse_cons, List.append_assoc, List.cons_append,
      List.nil_append]

/-- Hexadecimal text reads back. -/
theorem ofHex?_toHex (bytes : Bytes) : ofHex? bytes.toHex = some bytes := by
  simp [ofHex?, toHex, ofHexChars_toHexChars]

/-! ## Big-endian numbers -/

/-- The number whose big-endian bytes these are. -/
def toNat (bytes : Bytes) : Nat :=
  bytes.foldl (fun n b => 256 * n + b.toNat) 0

/-- The `width` low bytes of a number, big-endian. -/
def ofNat : (width n : Nat) → Bytes
  | 0, _ => []
  | width + 1, n => ofNat width (n / 256) ++ [n.toUInt8]

@[simp]
theorem length_ofNat (width n : Nat) : (ofNat width n).length = width := by
  induction width generalizing n with
  | zero => rfl
  | succ width ih => simp [ofNat, ih]

@[simp]
theorem toNat_append_singleton (bytes : Bytes) (b : UInt8) :
    toNat (bytes ++ [b]) = 256 * toNat bytes + b.toNat := by
  simp [toNat]

/-- A number that fits reads back. -/
theorem toNat_ofNat {width n : Nat} (h : n < Nat.pow 256 width) : toNat (ofNat width n) = n := by
  induction width generalizing n with
  | zero => simp at h; simp [ofNat, toNat, h]
  | succ width ih =>
    replace h : n < Nat.pow 256 width * 256 := h
    rw [ofNat, toNat_append_singleton, ih (by omega)]
    have : n.toUInt8.toNat = n % 256 := by simp
    omega

/-- The last byte is the lowest. -/
theorem exists_low {width : Nat} {bytes : Bytes} (h : bytes.length = width + 1) :
    ∃ high b, bytes = high ++ [b] ∧ high.length = width := by
  have hne : bytes ≠ [] := List.ne_nil_of_length_eq_add_one h
  exact ⟨bytes.dropLast, bytes.getLast hne, (List.dropLast_concat_getLast hne).symm, by simp [h]⟩

/-- The bytes of a number read back. -/
theorem ofNat_toNat {width : Nat} {bytes : Bytes} (h : bytes.length = width) :
    ofNat width (toNat bytes) = bytes := by
  induction width generalizing bytes with
  | zero =>
    rw [List.length_eq_zero_iff.1 h]
    rfl
  | succ width ih =>
    obtain ⟨high, b, rfl, hhigh⟩ := exists_low h
    have hb := b.toNat_lt
    have hlow : (256 * toNat high + b.toNat).toUInt8 = b := by
      rw [← UInt8.toNat_inj]
      simp
    have hrest : (256 * toNat high + b.toNat) / 256 = toNat high := by omega
    rw [toNat_append_singleton, ofNat, hlow, hrest, ih hhigh]

/-- So many bytes hold no larger number. -/
theorem toNat_lt {width : Nat} {bytes : Bytes} (h : bytes.length = width) :
    toNat bytes < Nat.pow 256 width := by
  induction width generalizing bytes with
  | zero =>
    rw [List.length_eq_zero_iff.1 h]
    exact Nat.one_pos
  | succ width ih =>
    obtain ⟨high, b, rfl, hhigh⟩ := exists_low h
    have hb := b.toNat_lt
    have hlt := ih hhigh
    rw [toNat_append_singleton]
    show _ < Nat.pow 256 width * 256
    omega

/-! ## Cutting -/

/-- The first `count` bytes and the rest, if there are that many. -/
def split? (count : Nat) (bytes : Bytes) : Option (Bytes × Bytes) :=
  let head := bytes.take count
  if head.length < count then none else some (head, bytes.drop count)

theorem split?_eq_some {count : Nat} {bytes head rest : Bytes} :
    split? count bytes = some (head, rest) ↔ bytes = head ++ rest ∧ head.length = count := by
  simp only [split?, List.length_take]
  split
  · rename_i h
    constructor
    · nofun
    · rintro ⟨rfl, rfl⟩
      simp at h
  · rename_i h
    simp only [Option.some.injEq, Prod.mk.injEq]
    constructor
    · rintro ⟨rfl, rfl⟩
      exact ⟨(List.take_append_drop ..).symm, by simp; omega⟩
    · rintro ⟨rfl, rfl⟩
      simp

theorem split?_eq_none {count : Nat} {bytes : Bytes} :
    split? count bytes = none ↔ bytes.length < count := by
  simp only [split?, List.length_take]
  split <;> simp <;> omega

/-- What stands in front is cut off. -/
theorem split?_append {count : Nat} {head : Bytes} (h : head.length = count) (rest : Bytes) :
    split? count (head ++ rest) = some (head, rest) :=
  split?_eq_some.2 ⟨rfl, h⟩

/-- The first `length` bytes, with zeros behind them if there are fewer. -/
def resize (length : Nat) (bytes : Bytes) : Bytes :=
  bytes.take length ++ List.replicate (length - bytes.length) 0

@[simp]
theorem length_resize (length : Nat) (bytes : Bytes) : (resize length bytes).length = length := by
  simp [resize]
  omega

end Bytes

/-! ## Fixed lengths -/

/-- A string of `n` bytes. -/
structure BytesN (n : Nat) where
  toList : Bytes
  length_toList : toList.length = n
  deriving DecidableEq

namespace BytesN
variable {n : Nat}

@[ext]
theorem ext {a b : BytesN n} (h : a.toList = b.toList) : a = b := by
  cases a; cases b; simp_all

/-- The bytes, if there are `n` of them. -/
def ofList? (n : Nat) (bytes : Bytes) : Option (BytesN n) :=
  if h : bytes.length = n then some ⟨bytes, h⟩ else none

/-- The first `n` bytes and the rest, if there are that many. -/
def split? (n : Nat) (bytes : Bytes) : Option (BytesN n × Bytes) :=
  match h : Bytes.split? n bytes with
  | none => none
  | some (head, rest) => some (⟨head, (Bytes.split?_eq_some.1 h).2⟩, rest)

/-- What stands in front is cut off. -/
theorem split?_append (bytes : BytesN n) (rest : Bytes) :
    split? n (bytes.toList ++ rest) = some (bytes, rest) := by
  rw [split?]
  split
  · rename_i h
    rw [Bytes.split?_append bytes.length_toList] at h
    simp at h
  · rename_i head tail h
    rw [Bytes.split?_append bytes.length_toList] at h
    simp only [Option.some.injEq, Prod.mk.injEq] at h
    simp [← h.1, ← h.2]

theorem eq_append_of_split? {bytes rest : Bytes} {head : BytesN n}
    (h : split? n bytes = some (head, rest)) : bytes = head.toList ++ rest := by
  rw [split?] at h
  split at h
  · exact absurd h nofun
  · rename_i hsplit
    cases h
    exact (Bytes.split?_eq_some.1 hsplit).1

/-- All bytes zero. -/
def zero (n : Nat) : BytesN n := ⟨List.replicate n 0, List.length_replicate⟩

instance : Inhabited (BytesN n) := ⟨zero n⟩

/-- Byte by byte. -/
instance : Ord (BytesN n) := ⟨fun a b => compare a.toList b.toList⟩

/-- Lower-case hexadecimal text, without anything in front. -/
def toHex (bytes : BytesN n) : String := bytes.toList.toHex

end BytesN

/-- A 32-byte hash. -/
abbrev Hash := BytesN 32

/-- A 20-byte address. -/
abbrev Address := BytesN 20

/-- The 16 bytes that a batcher picks for a channel. -/
abbrev ChannelId := BytesN 16

end BatchInbox
