import BatchInbox.Bytes

/-!
# Blobs

A blob is 4096 field elements of 32 bytes, and only the six low bits of an element's first byte are
free.  A payload is therefore written in rounds of four elements: four times 31 bytes, and three
more bytes whose bits are spread over the four first bytes.  The first round gives up four bytes for
the version of this format and the length of the payload.

In the order of the payload, the spread bytes `x`, `y`, `z` stand between the four runs of 31.

## What is here

* `Blob`, `Blob.encode`, `Blob.decode` — blobs, and payloads in them.
* `spread`, `gather` — the three bytes over the first bytes of four elements; `gather_spread` says
  that they come back, `spread_lt` that they fit.
-/

set_option autoImplicit false
namespace BatchInbox

/-- A blob of 4096 field elements. -/
abbrev Blob := BytesN 131072

namespace Blob

/-- The payload bytes of a round of four elements. -/
def roundSize : Nat := 4 * 31 + 3

/-- The payload bytes of the first round. -/
def firstRoundSize : Nat := roundSize - 4

/-- The longest payload: 1024 rounds, less version and length. -/
def maxPayload : Nat := 1024 * roundSize - 4

/-- The only version of this format. -/
def version : UInt8 := 0

/-- Why a blob holds no payload. -/
inductive DecodeError where
  | invalidVersion (version : UInt8)
  | lengthTooLarge (length : Nat)
  | invalidFieldElement (index : Nat)
  deriving DecidableEq, Repr

/-- The text of an error. -/
def DecodeError.message : DecodeError → String
  | invalidVersion version => s!"unsupported blob encoding version: {version}"
  | lengthTooLarge length => s!"blob payload length {length} exceeds maximum of {maxPayload}"
  | invalidFieldElement index => s!"field element {index} has its two high bits set"

/-- A payload is too long for a blob. -/
structure EncodeError where
  length : Nat
  deriving DecidableEq, Repr

/-- The text of an error. -/
def EncodeError.message (e : EncodeError) : String :=
  s!"payload of {e.length} bytes does not fit in a blob (max {maxPayload})"

/-! ## Spread bytes -/

/-- The first bytes of the four elements that carry `x`, `y` and `z`: two low bits above `x` come
with the low half of `y`, two above `z` with its high half. -/
def spread (x y z : UInt8) : UInt8 × UInt8 × UInt8 × UInt8 :=
  (x % 64, x / 64 * 16 + y % 16, z % 64, z / 64 * 16 + y / 16)

/-- The bytes carried by the first bytes of four elements. -/
def gather (a b c d : UInt8) : UInt8 × UInt8 × UInt8 :=
  (b / 16 % 4 * 64 + a % 64, d % 16 * 16 + b % 16, d / 16 % 4 * 64 + c % 64)

theorem gather_spread (x y z : UInt8) :
    gather (spread x y z).1 (spread x y z).2.1 (spread x y z).2.2.1 (spread x y z).2.2.2 =
      (x, y, z) := by
  have := x.toNat_lt
  have := y.toNat_lt
  have := z.toNat_lt
  simp only [spread, gather, Prod.mk.injEq, ← UInt8.toNat_inj, UInt8.toNat_add, UInt8.toNat_mul,
    UInt8.toNat_div, UInt8.toNat_mod, UInt8.reduceToNat]
  omega

/-- Spread bytes leave the two high bits of an element clear. -/
theorem spread_lt (x y z : UInt8) :
    (spread x y z).1 < 64 ∧ (spread x y z).2.1 < 64 ∧ (spread x y z).2.2.1 < 64 ∧
      (spread x y z).2.2.2 < 64 := by
  have := x.toNat_lt
  have := y.toNat_lt
  have := z.toNat_lt
  simp only [spread, UInt8.lt_iff_toNat_lt, UInt8.toNat_add, UInt8.toNat_mul, UInt8.toNat_div,
    UInt8.toNat_mod, UInt8.reduceToNat]
  omega

/-! ## Writing -/

/-- A round of four elements, for the 31 bytes of the first element and the 96 bytes behind them. -/
def encodeRound (first rest : Bytes) : Bytes :=
  let byte (i : Nat) : UInt8 := rest.getD i 0
  let run (i : Nat) : Bytes := (rest.drop i).take 31
  let (a, b, c, d) := spread (byte 0) (byte 32) (byte 64)
  (a :: first) ++ (b :: run 1) ++ (c :: run 33) ++ (d :: run 65)

/-- The rounds behind the first one, as many as the payload needs. -/
def encodeRounds (payload : Bytes) : Bytes :=
  if payload.isEmpty then []
  else
    let chunk := Bytes.resize roundSize payload
    encodeRound (chunk.take 31) (chunk.drop 31) ++ encodeRounds (payload.drop roundSize)
  termination_by payload.length
  decreasing_by
    rename_i h
    have : payload.length ≠ 0 := by simpa using h
    simp only [List.length_drop, roundSize]
    omega

/-- All rounds of a payload. -/
def encodeAll (payload : Bytes) : Bytes :=
  let chunk := Bytes.resize firstRoundSize payload
  encodeRound (version :: Bytes.ofNat 3 payload.length ++ chunk.take 27) (chunk.drop 27) ++
    encodeRounds (payload.drop firstRoundSize)

/-- The blob that carries a payload; the rounds that it does not need are zero. -/
def encode (payload : Bytes) : Except EncodeError Blob :=
  if maxPayload < payload.length then .error ⟨payload.length⟩
  else .ok ⟨Bytes.resize 131072 (encodeAll payload), Bytes.length_resize ..⟩

/-! ## Reading -/

/-- Reads element `index`: its first byte, the 31 others, and what follows. -/
def readElement (index : Nat) (bytes : Bytes) : Except DecodeError (UInt8 × Bytes × Bytes) :=
  match bytes.split? 32 with
  | some (first :: run, rest) =>
    if 64 ≤ first then .error (.invalidFieldElement index) else .ok (first, run, rest)
  | _ => .error (.invalidFieldElement index)

/-- Reads the round that starts with element `index`: the 31 bytes of its first element, the 96
bytes behind them, and what follows. -/
def readRound (index : Nat) (bytes : Bytes) : Except DecodeError (Bytes × Bytes × Bytes) := do
  let (a, run0, bytes) ← readElement index bytes
  let (b, run1, bytes) ← readElement (index + 1) bytes
  let (c, run2, bytes) ← readElement (index + 2) bytes
  let (d, run3, bytes) ← readElement (index + 3) bytes
  let (x, y, z) := gather a b c d
  return (run0, x :: run1 ++ y :: run2 ++ z :: run3, bytes)

/-- Reads rounds from element `index` on, at most `rounds` of them, until with the `written` bytes in
front of them there are `length`. -/
def readRounds (length : Nat) : (rounds written index : Nat) → Bytes → Except DecodeError Bytes
  | 0, _, _, _ => .ok []
  | rounds + 1, written, index, bytes => do
    if length ≤ written then return []
    let (first, rest, bytes) ← readRound index bytes
    return first ++ rest ++ (← readRounds length rounds (written + roundSize) (index + 4) bytes)

/-- The payload of a blob.  Rounds that it does not need may hold anything. -/
def decode (blob : Blob) : Except DecodeError Bytes := do
  let given := blob.toList.getD 1 0
  if given ≠ version then .error (.invalidVersion given)
  let length := Bytes.toNat ((blob.toList.drop 2).take 3)
  if maxPayload < length then .error (.lengthTooLarge length)
  let (first, rest, bytes) ← readRound 0 blob.toList
  let more ← readRounds length 1023 firstRoundSize 4 bytes
  return (first.drop 4 ++ rest ++ more).take length

end Blob
end BatchInbox
