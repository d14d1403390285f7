import BatchInbox.Json.Scalar

/-!
# Reading records from JSON

A record is an object, or an array of its members in order.  Fields of an object that the record
does not have are skipped; a field that it has must not be repeated, under any of its names.

## What is here

* `Json.Member`, `Json.members?` — the members of a record.
* `Json.toList?`, `Json.toBytes?`, `Json.toFixed?`, `Json.toQuantity?` — the types of members.
-/

set_option autoImplicit false
namespace BatchInbox.Json

/-! ## Members -/

/-- Whether a member may be missing. -/
inductive Presence where
  | required
  /-- It may be missing in an object. -/
  | optional
  /-- It may be missing in an object, and at the end of an array. -/
  | defaulted
  deriving DecidableEq, Repr

/-- A member of a record. -/
structure Member where
  /-- The names that it may have in an object. -/
  names : List String
  presence : Presence

/-- A member that must be there. -/
def Member.required (name : String) : Member := ⟨[name], .required⟩

/-- A member that may be missing in an object. -/
def Member.optional (name : String) : Member := ⟨[name], .optional⟩

/-- A member that may be missing. -/
def Member.defaulted (name : String) : Member := ⟨[name], .defaulted⟩

/-- The value of a member among fields, if any. -/
def Member.find? (m : Member) (fields : List (String × Json)) : Option (Option Json) :=
  match fields.filter fun field => m.names.contains field.1 with
  | [] => if m.presence = .required then none else some none
  | [(_, value)] => some (some value)
  | _ => none

/-- The items for members, if any. -/
def matchItems? : List Member → List Json → Option (List (Option Json))
  | [], [] => some []
  | [], _ :: _ => none
  | m :: members, [] =>
    if m.presence = .defaulted then (matchItems? members []).map (none :: ·) else none
  | _ :: members, item :: items => (matchItems? members items).map (some item :: ·)

/-- The name of a field. -/
def readField? (field : List Char × Json) : Option (String × Json) :=
  (unescape? field.1).map fun name => (String.ofList name, field.2)

/-- The members of a record, each with its value if it is there. -/
def members? (members : List Member) : Json → Option (List (Option Json))
  | object fields => (fields.mapM readField?).bind fun fields => members.mapM (·.find? fields)
  | array items => matchItems? members items
  | _ => none

/-- The value of a member that must be there. -/
def required? {α : Type} (read : Json → Option α) (member : Option Json) : Option α :=
  member.bind read

/-- The value of a member that may be missing, or null. -/
def optional? {α : Type} (read : Json → Option α) : Option Json → Option (Option α)
  | none | some null => some none
  | some value => (read value).map some

/-- The value of a member that is `default` if it is missing. -/
def defaulted? {α : Type} (default : α) (read : Json → Option α) : Option Json → Option α
  | none => some default
  | some value => read value

/-! ## Types -/

/-- The items of an array. -/
def toList? {α : Type} (read : Json → Option α) : Json → Option (List α)
  | array items => items.mapM read
  | _ => none

/-- The word, if it is below `bound`. -/
def toBounded? (bound : Nat) (value : Json) : Option Word :=
  value.toWord?.bind fun w => if w.toNat < bound then some w else none

/-- A byte. -/
def toByte? (value : Json) : Option UInt8 := (value.toBounded? 256).map (·.toUInt8)

/-- The bytes for hexadecimal digits, which may follow `0x`. -/
def hexBytes? : List Char → Option Bytes
  | '0' :: 'x' :: digits => Bytes.ofHexChars [] digits
  | digits => Bytes.ofHexChars [] digits

/-- Bytes: hexadecimal digits, or an array of numbers. -/
def toBytes? : Json → Option Bytes
  | string token => (unescape? token).bind hexBytes?
  | array items => items.mapM toByte?
  | _ => none

/-- A given number of bytes. -/
def toFixed? (n : Nat) (value : Json) : Option (BytesN n) :=
  value.toBytes?.bind (BytesN.ofList? n)

/-- The value of a digit in a base of up to 36. -/
def digitValue? (base : Nat) (c : Char) : Option Nat :=
  let n := c.toNat
  let value :=
    if 48 ≤ n ∧ n ≤ 57 then some (n - 48)
    else if 97 ≤ n ∧ n ≤ 122 then some (n - 87)
    else if 65 ≤ n ∧ n ≤ 90 then some (n - 55)
    else none
  value.filter (· < base)

/-- The number that digits stand for; underscores do not count. -/
def readBase? (base : Nat) (digits : List Char) : Option Nat :=
  ((digits.filter (· ≠ '_')).mapM (digitValue? base)).map fun values =>
    values.foldl (fun n value => base * n + value) 0

/-- The number that a quantity stands for: hexadecimal behind `0x`, octal behind `0o`, binary behind
`0b`, or decimal.  No digits stand for zero. -/
def readQuantity? : List Char → Option Nat
  | '0' :: 'x' :: digits | '0' :: 'X' :: digits => readBase? 16 digits
  | '0' :: 'o' :: digits | '0' :: 'O' :: digits => readBase? 8 digits
  | '0' :: 'b' :: digits | '0' :: 'B' :: digits => readBase? 2 digits
  | digits => readBase? 10 digits

/-- A quantity below `bound`, as a string or as a number. -/
def toQuantity? (bound : Nat) : Json → Option Word
  | string token =>
    ((unescape? token).bind readQuantity?).bind fun n =>
      if n < bound then Word.ofNat? n else none
  | value => value.toBounded? bound

end BatchInbox.Json
