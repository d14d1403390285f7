import BatchInbox.Bytes
import BatchInbox.Json.Syntax

/-!
# Strings and numbers in JSON

A string stands for characters, some of them written as escapes.  A character outside the basic
plane is escaped as a pair of surrogates; a surrogate on its own stands for nothing.

A number stands for a word, for a negative number of 64 bits, or for something that only a floating
point number could hold, if even that.

## What is here

* `Json.unescape?`, `Json.escape`, `Json.ofString`, `Json.toString?` — strings.
* `Json.ofBytes`, `Json.ofFields` — bytes in hexadecimal, and objects.
* `Json.Number`, `Json.Number.ofToken`, `Json.ofWord`, `Json.toWord?` — numbers.
-/

set_option autoImplicit false
namespace BatchInbox.Json

/-! ## Strings -/

/-- The value of hexadecimal digits. -/
def hexValue (digits : List Char) : Nat :=
  digits.foldl (fun n c => 16 * n + (Bytes.hexValue? c).getD 0) 0

/-- The character that a backslash and a letter stand for. -/
def escaped (c : Char) : Char :=
  if c = 'b' then '\x08'
  else if c = 'f' then '\x0c'
  else if c = 'n' then '\n'
  else if c = 'r' then '\r'
  else if c = 't' then '\t'
  else c

/-- The first half of a pair of surrogates. -/
def isHigh (unit : Nat) : Bool := 0xd800 ≤ unit && unit < 0xdc00

/-- The second half of a pair of surrogates. -/
def isLow (unit : Nat) : Bool := 0xdc00 ≤ unit && unit < 0xe000

/-- The characters that a string stands for, behind those of `acc`, which is in reverse. -/
def unescapeFrom? (acc : List Char) : List Char → Option (List Char)
  | [] => some acc.reverse
  | '\\' :: 'u' :: a :: b :: c :: d :: '\\' :: 'u' :: e :: f :: g :: h :: rest =>
    let first := hexValue [a, b, c, d]
    let second := hexValue [e, f, g, h]
    if isHigh first then
      if isLow second then
        unescapeFrom? (Char.ofNat (0x10000 + 0x400 * (first - 0xd800) + (second - 0xdc00)) :: acc)
          rest
      else none
    else if isLow first then none
    else unescapeFrom? (Char.ofNat first :: acc) ('\\' :: 'u' :: e :: f :: g :: h :: rest)
  | '\\' :: 'u' :: a :: b :: c :: d :: rest =>
    let unit := hexValue [a, b, c, d]
    if isHigh unit || isLow unit then none else unescapeFrom? (Char.ofNat unit :: acc) rest
  | '\\' :: c :: rest => unescapeFrom? (escaped c :: acc) rest
  | c :: rest => unescapeFrom? (c :: acc) rest
  termination_by text => text.length

/-- The characters that a string stands for. -/
def unescape? (token : List Char) : Option (List Char) := unescapeFrom? [] token

/-- A character as it stands between quotes. -/
def escapeChar (c : Char) : List Char :=
  if c = '"' then ['\\', '"']
  else if c = '\\' then ['\\', '\\']
  else if c = '\x08' then ['\\', 'b']
  else if c = '\x0c' then ['\\', 'f']
  else if c = '\n' then ['\\', 'n']
  else if c = '\r' then ['\\', 'r']
  else if c = '\t' then ['\\', 't']
  else if c.toNat < 32 then '\\' :: 'u' :: '0' :: '0' :: Bytes.toHexChars [c.toNat.toUInt8]
  else [c]

/-- The token of a string. -/
def escape (text : List Char) : List Char := text.flatMap escapeChar

/-- The string with the given characters. -/
def ofString (text : String) : Json := string (escape text.toList)

/-- The string with the hexadecimal text of bytes, behind `0x`. -/
def ofBytes (bytes : Bytes) : Json := string ('0' :: 'x' :: bytes.toHexChars)

/-- The object with the given fields. -/
def ofFields (fields : List (String × Json)) : Json :=
  object (fields.map fun field => (escape field.1.toList, field.2))

/-- The characters of a string. -/
def toString? : Json → Option String
  | string token => (unescape? token).map String.ofList
  | _ => none

/-! ## Numbers -/

/-- What a number stands for. -/
inductive Number where
  | natural (value : Word)
  | negative (magnitude : Word)
  /-- A number with a fraction or an exponent, or one that needs more than 64 bits. -/
  | other (isFinite : Bool)
  deriving DecidableEq, Repr

namespace Number

/-- The first number that rounds to infinity as a double. -/
def infinity : Nat := 1 <<< 1024 - 1 <<< 970

/-- A number is in the range of doubles.  All powers that are computed have at most some hundred
digits more than the number itself. -/
def isDouble (mantissa : Nat) (exponent : Int) : Bool :=
  let magnitude := (Decimal.digits mantissa).length + exponent
  if mantissa = 0 ∨ magnitude < 300 then true
  else if 310 < magnitude then false
  else if 0 ≤ exponent then mantissa * Nat.pow 10 exponent.toNat < infinity
  else mantissa < infinity * Nat.pow 10 (-exponent).toNat

/-- The exponent behind `e`. -/
def exponent (text : List Char) : Int :=
  match text with
  | '-' :: digits => -(Decimal.value digits : Int)
  | '+' :: digits => Decimal.value digits
  | digits => Decimal.value digits

/-- A number without its sign is in the range of doubles. -/
def isFinite (unsigned : List Char) : Bool :=
  let isE (c : Char) : Bool := c = 'e' || c = 'E'
  let mantissa := unsigned.takeWhile (!isE ·)
  let integer := mantissa.takeWhile (· ≠ '.')
  let fraction := (mantissa.dropWhile (· ≠ '.')).drop 1
  let shift := exponent ((unsigned.dropWhile (!isE ·)).drop 1)
  isDouble (Decimal.value (integer ++ fraction)) (shift - fraction.length)

/-- What a number stands for. -/
def ofToken (token : List Char) : Number :=
  match token with
  | '-' :: unsigned =>
    match Decimal.read? unsigned with
    | some n =>
      if 0 < n ∧ n ≤ 1 <<< 63 then negative n.toUInt64 else other (isFinite unsigned)
    | none => other (isFinite unsigned)
  | unsigned =>
    match (Decimal.read? unsigned).bind Word.ofNat? with
    | some w => natural w
    | none => other (isFinite unsigned)

end Number

/-- The number for a word. -/
def ofWord (w : Word) : Json := number (Decimal.digits w.toNat)

/-- The word that a number stands for. -/
def toWord? : Json → Option Word
  | number token =>
    match Number.ofToken token with
    | .natural w => some w
    | _ => none
  | _ => none

end BatchInbox.Json
