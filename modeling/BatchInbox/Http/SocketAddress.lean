import BatchInbox.Bytes
import BatchInbox.Decimal

/-!
# Socket addresses

A server listens at an address and a number.  An address has four bytes, written as decimal numbers
between dots, or eight groups of 16 bits, written in hexadecimal between colons, where two colons in
a row stand for groups of zeros.  The last two groups may be written like an address of four bytes.

## What is here

* `SocketAddress` — addresses with their numbers; `SocketAddress.parse?`, `SocketAddress.text`.
-/

set_option autoImplicit false
namespace BatchInbox

/-- An address and a number. -/
inductive SocketAddress where
  | v4 (bytes : List Nat) (number : Nat)
  /-- The scope is only meaningful on one machine; 0 stands for none. -/
  | v6 (groups : List Nat) (scope number : Nat)
  deriving DecidableEq, Repr

namespace SocketAddress

/-! ## Reading -/

/-- Reads digits of a base, at most `digits` of them, for a number below `bound`. -/
def readNumber? (base digits bound : Nat) (zeros : Bool) (text : List Char) :
    Option (Nat × List Char) :=
  let isDigit (c : Char) : Bool := (Bytes.hexValue? c).any (· < base)
  let token := text.takeWhile isDigit
  let value := token.foldl (fun n c => base * n + (Bytes.hexValue? c).getD 0) 0
  if token.isEmpty || digits < token.length || bound ≤ value then none
  else if !zeros && 1 < token.length && token.head? = some '0' then none
  else some (value, text.dropWhile isDigit)

/-- Reads a number below 256 without leading zeros. -/
def readByte? : List Char → Option (Nat × List Char) := readNumber? 10 3 256 false

/-- Reads four bytes. -/
def readV4? (text : List Char) : Option (List Nat × List Char) := do
  let (a, text) ← readByte? text
  let (b, text) ← byte? text
  let (c, text) ← byte? text
  let (d, text) ← byte? text
  return ([a, b, c, d], text)
where
  /-- Reads a byte behind a dot. -/
  byte? : List Char → Option (Nat × List Char)
    | '.' :: text => readByte? text
    | _ => none

/-- The text behind the colon that stands in front of every group but the first. -/
def skipColon? (isFirst : Bool) (text : List Char) : Option (List Char) :=
  if isFirst then some text
  else
    match text with
    | ':' :: text => some text
    | _ => none

/-- Four bytes as two groups. -/
def pairBytes : List Nat → List Nat
  | [a, b, c, d] => [256 * a + b, 256 * c + d]
  | _ => []

/-- Reads up to `limit` groups, with colons between them: the groups, whether the last two were
written as four bytes, and what follows. -/
def readGroups (isFirst : Bool) : (limit : Nat) → List Char → List Nat × Bool × List Char
  | 0, text => ([], false, text)
  | limit + 1, text =>
    let bytes? := if limit = 0 then none else (skipColon? isFirst text).bind readV4?
    match bytes? with
    | some (bytes, rest) => (pairBytes bytes, true, rest)
    | none =>
      match (skipColon? isFirst text).bind (readNumber? 16 4 65536 true) with
      | none => ([], false, text)
      | some (group, rest) =>
        let (groups, isV4, rest) := readGroups false limit rest
        (group :: groups, isV4, rest)

/-- Reads eight groups. -/
def readV6? (text : List Char) : Option (List Nat × List Char) :=
  match readGroups true 8 text with
  | (head, isV4, rest) =>
    if head.length = 8 then some (head, rest)
    else if isV4 then none
    else
      match rest with
      | ':' :: ':' :: rest =>
        let (tail, _, rest) := readGroups true (7 - head.length) rest
        some (head ++ List.replicate (8 - head.length - tail.length) 0 ++ tail, rest)
      | _ => none

/-- Reads the number behind an address, up to the end. -/
def readLast? : List Char → Option Nat
  | ':' :: text =>
    match readNumber? 10 text.length 65536 true text with
    | some (number, []) => some number
    | _ => none
  | _ => none

/-- Reads a scope, if there is one. -/
def readScope? : List Char → Option (Nat × List Char)
  | '%' :: text => readNumber? 10 text.length UInt32.size true text
  | text => some (0, text)

/-- Reads an address and its number. -/
def parse? (text : String) : Option SocketAddress :=
  match text.toList with
  | '[' :: text => do
    let (groups, rest) ← readV6? text
    let (scope, rest) ← readScope? rest
    match rest with
    | ']' :: rest => return .v6 groups scope (← readLast? rest)
    | _ => none
  | text => do
    let (bytes, rest) ← readV4? text
    return .v4 bytes (← readLast? rest)

/-! ## Writing -/

/-- Four bytes between dots. -/
def v4Text (bytes : List Nat) : String := String.intercalate "." (bytes.map toString)

/-- Groups between colons. -/
def groupsText (groups : List Nat) : String :=
  String.intercalate ":" (groups.map fun g => String.ofList (Nat.toDigits 16 g))

/-- The number of zeros that groups start with. -/
def leadingZeros (groups : List Nat) : Nat := (groups.takeWhile (· = 0)).length

/-- Where the first of the longest runs of zeros starts, and how long it is. -/
def longestRun : (start : Nat) → List Nat → Nat × Nat
  | start, [] => (start, 0)
  | start, g :: groups =>
    let here := leadingZeros (g :: groups)
    let (later, length) := longestRun (start + 1) groups
    if length ≤ here then (start, here) else (later, length)

/-- Eight groups. -/
def v6Text (groups : List Nat) : String :=
  match groups with
  | [0, 0, 0, 0, 0, 0xffff, high, low] =>
    "::ffff:" ++ v4Text [high / 256, high % 256, low / 256, low % 256]
  | groups =>
    let (start, length) := longestRun 0 groups
    if length < 2 then groupsText groups
    else groupsText (groups.take start) ++ "::" ++ groupsText (groups.drop (start + length))

/-- The address and its number. -/
def text : SocketAddress → String
  | v4 bytes number => s!"{v4Text bytes}:{number}"
  | v6 groups 0 number => s!"[{v6Text groups}]:{number}"
  | v6 groups scope number => s!"[{v6Text groups}%{scope}]:{number}"

end SocketAddress
end BatchInbox
