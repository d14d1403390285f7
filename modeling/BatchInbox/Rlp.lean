import BatchInbox.Bytes
import BatchInbox.Word

/-!
# Recursive length prefix

RLP nests byte strings in lists.  An item is a header and a payload; the header says whether the
payload is a string or a list, and how long it is.  A byte below `0x80` is its own item.  Only the
shortest header is accepted, and numbers have no leading zeros.

## What is here

* `Rlp.Error` — what can be wrong with an item.
* `readHeader`, `readPayload`, `readString`, `readWord`, `readFixed`, `readStrings` — each takes an
  item off the front of its input and returns the rest.
* `string`, `word`, `strings`, `list` — the item for a value.
-/

set_option autoImplicit false
namespace BatchInbox.Rlp

/-- What can be wrong with an item. -/
inductive Error where
  | overflow
  | leadingZero
  | inputTooShort
  | nonCanonicalSingleByte
  | nonCanonicalSize
  | unexpectedLength
  | unexpectedString
  | unexpectedList
  | listLengthMismatch (expected got : Nat)
  deriving DecidableEq, Repr

/-- The text of an error. -/
def Error.message : Error → String
  | overflow => "overflow"
  | leadingZero => "leading zero"
  | inputTooShort => "input too short"
  | nonCanonicalSingleByte => "non-canonical single byte"
  | nonCanonicalSize => "non-canonical size"
  | unexpectedLength => "unexpected length"
  | unexpectedString => "unexpected string"
  | unexpectedList => "unexpected list"
  | listLengthMismatch expected got => s!"unexpected list length (got {got}, expected {expected})"

/-! ## Writing -/

/-- The bytes of a number without leading zeros. -/
def trimmed (n : Nat) : Bytes :=
  if n = 0 then [] else trimmed (n / 256) ++ [n.toUInt8]
  termination_by n
  decreasing_by omega

/-- The header of a payload of `length` bytes: `short` starts the range of codes that tell short
lengths, which is followed by the codes for the length of the length. -/
def header (short : UInt8) (length : Nat) : Bytes :=
  if length < 56 then [short + length.toUInt8]
  else
    let size := trimmed length
    (short + 55 + size.length.toUInt8) :: size

/-- The item for a string. -/
def string (bytes : Bytes) : Bytes :=
  match bytes with
  | [b] => if b < 0x80 then [b] else header 0x80 1 ++ [b]
  | bytes => header 0x80 bytes.length ++ bytes

/-- The item for a number. -/
def word (w : Word) : Bytes := string (trimmed w.toNat)

/-- The item for a list with the given payload. -/
def list (payload : Bytes) : Bytes := header 0xc0 payload.length ++ payload

/-- The item for a list of strings. -/
def strings (items : List Bytes) : Bytes := list (items.flatMap string)

/-! ## Reading -/

/-- Reads a length of `size` bytes behind a header byte. -/
def readLength (size : Nat) (bytes : Bytes) : Except Error (Nat × Bytes) :=
  match bytes.split? size with
  | none => .error .inputTooShort
  | some (digits, rest) =>
    if digits.head? = some 0 then .error .leadingZero
    else
      let length := digits.toNat
      if length < 56 then .error .nonCanonicalSize else .ok (length, rest)

/-- Reads the header of an item: whether it is a list, and the length of the payload that follows. A
byte that is its own item has an empty header. -/
def readHeader (bytes : Bytes) : Except Error (Bool × Nat × Bytes) :=
  match bytes with
  | [] => .error .inputTooShort
  | b :: rest =>
    if b < 0x80 then .ok (false, 1, bytes)
    else if b < 0xb8 then
      let length := b.toNat - 0x80
      if length = 1 then
        match rest with
        | [] => .error .inputTooShort
        | first :: _ =>
          if first < 0x80 then .error .nonCanonicalSingleByte else .ok (false, 1, rest)
      else .ok (false, length, rest)
    else if b < 0xc0 then (readLength (b.toNat - 0xb7) rest).map (false, ·)
    else if b < 0xf8 then .ok (true, b.toNat - 0xc0, rest)
    else (readLength (b.toNat - 0xf7) rest).map (true, ·)

/-- Reads an item that has to be a list, or a string, and returns its payload. -/
def readPayload (isList : Bool) (bytes : Bytes) : Except Error (Bytes × Bytes) := do
  let (found, length, rest) ← readHeader bytes
  match rest.split? length with
  | none => .error .inputTooShort
  | some (payload, rest) =>
    if found = isList then .ok (payload, rest)
    else .error (if isList then .unexpectedString else .unexpectedList)

/-- Reads a string. -/
def readString (bytes : Bytes) : Except Error (Bytes × Bytes) := readPayload false bytes

/-- Reads a number that fits into a word. -/
def readWord (bytes : Bytes) : Except Error (Word × Bytes) := do
  let (digits, rest) ← readString bytes
  if 8 < digits.length then .error .overflow
  else if digits.head? = some 0 then .error .leadingZero
  else .ok (digits.toNat.toUInt64, rest)

/-- Reads a string of `n` bytes. -/
def readFixed (n : Nat) (bytes : Bytes) : Except Error (BytesN n × Bytes) := do
  let (digits, rest) ← readString bytes
  match BytesN.ofList? n digits with
  | none => .error .unexpectedLength
  | some fixed => .ok (fixed, rest)

/-- Reads strings until the input is used up; `acc` holds those read before, in reverse.  Every
round takes an item, so as many rounds as there are bytes are enough. -/
def readAll (acc : List Bytes) : (rounds : Nat) → Bytes → Except Error (List Bytes)
  | 0, _ => .ok acc.reverse
  | rounds + 1, bytes =>
    if bytes.isEmpty then .ok acc.reverse
    else
      match readString bytes with
      | .error e => .error e
      | .ok (item, rest) => readAll (item :: acc) rounds rest

/-- Reads a list of strings. -/
def readStrings (bytes : Bytes) : Except Error (List Bytes × Bytes) := do
  let (payload, rest) ← readPayload true bytes
  return (← readAll [] payload.length payload, rest)

end BatchInbox.Rlp
