import BatchInbox.Decimal

/-!
# JSON text

A JSON value is kept as it is written: strings with their escapes, numbers with their digits, and
objects with all their fields in order, repeated ones too.  What a number or a string means, and
whether a repeated field is allowed, is for those to say who read something out of the value.

## What is here

* `Json` — values as written; `Json.render` writes one without blanks.
* `Json.parse?` — reads a text that holds one value.
-/

set_option autoImplicit false
namespace BatchInbox

/-- A JSON value as written. -/
inductive Json where
  | null
  | bool (value : Bool)
  /-- A number, sign and digits and all. -/
  | number (token : List Char)
  /-- What stands between the quotes. -/
  | string (token : List Char)
  | array (items : List Json)
  | object (fields : List (List Char × Json))

namespace Json

/-! ## Writing -/

mutual
/-- The text of a value. -/
def render : Json → List Char
  | null => "null".toList
  | bool true => "true".toList
  | bool false => "false".toList
  | number token => token
  | string token => '"' :: token ++ ['"']
  | array [] => "[]".toList
  | array (item :: items) => '[' :: render item ++ renderItems items
  | object [] => "\x7b\x7d".toList
  | object ((name, value) :: fields) =>
    '\x7b' :: '"' :: name ++ '"' :: ':' :: render value ++ renderFields fields

/-- The text of the items behind the first, and the bracket. -/
def renderItems : List Json → List Char
  | [] => [']']
  | item :: items => ',' :: render item ++ renderItems items

/-- The text of the fields behind the first, and the brace. -/
def renderFields : List (List Char × Json) → List Char
  | [] => ['\x7d']
  | (name, value) :: fields =>
    ',' :: '"' :: name ++ '"' :: ':' :: render value ++ renderFields fields
end

/-! ## Blanks, strings and numbers -/

/-- A character that may stand between tokens. -/
def isBlank (c : Char) : Bool := c = ' ' || c = '\n' || c = '\t' || c = '\r'

/-- The text behind the blanks that it starts with. -/
def skipBlanks (text : List Char) : List Char := text.dropWhile isBlank

/-- A hexadecimal digit. -/
def isHexDigit (c : Char) : Bool :=
  let n := c.toNat
  Decimal.isDigit c || (97 ≤ n && n ≤ 102) || (65 ≤ n && n ≤ 70)

/-- A character that may follow a backslash, other than `u`. -/
def isEscape (c : Char) : Bool :=
  c = '"' || c = '\\' || c = '/' || c = 'b' || c = 'f' || c = 'n' || c = 'r' || c = 't'

/-- Reads up to the closing quote; `acc` holds what was read before, in reverse. -/
def readString? (acc : List Char) : List Char → Option (List Char × List Char)
  | [] => none
  | '"' :: rest => some (acc.reverse, rest)
  | '\\' :: 'u' :: a :: b :: c :: d :: rest =>
    if [a, b, c, d].all isHexDigit then readString? (d :: c :: b :: a :: 'u' :: '\\' :: acc) rest
    else none
  | '\\' :: c :: rest => if isEscape c then readString? (c :: '\\' :: acc) rest else none
  | c :: rest => if c.toNat < 32 || c = '\\' then none else readString? (c :: acc) rest

/-- Reads one digit or more. -/
def readDigits? (text : List Char) : Option (List Char × List Char) :=
  match text.takeWhile Decimal.isDigit with
  | [] => none
  | digits => some (digits, text.dropWhile Decimal.isDigit)

/-- Reads digits that have no leading zero. -/
def readInteger? (text : List Char) : Option (List Char × List Char) :=
  match text with
  | '0' :: rest => some (['0'], rest)
  | text => readDigits? text

/-- Reads a point with digits behind it, if there is a point. -/
def readFraction? (text : List Char) : Option (List Char × List Char) :=
  match text with
  | '.' :: rest => (readDigits? rest).map fun (digits, rest) => ('.' :: digits, rest)
  | text => some ([], text)

/-- Reads the digits of an exponent, which may have a sign. -/
def readSigned? (text : List Char) : Option (List Char × List Char) :=
  match text with
  | '+' :: rest => (readDigits? rest).map fun (digits, rest) => ('+' :: digits, rest)
  | '-' :: rest => (readDigits? rest).map fun (digits, rest) => ('-' :: digits, rest)
  | text => readDigits? text

/-- Reads an exponent, if there is one. -/
def readExponent? (text : List Char) : Option (List Char × List Char) :=
  match text with
  | 'e' :: rest => (readSigned? rest).map fun (digits, rest) => ('e' :: digits, rest)
  | 'E' :: rest => (readSigned? rest).map fun (digits, rest) => ('E' :: digits, rest)
  | text => some ([], text)

/-- Reads a number without a sign. -/
def readUnsigned? (text : List Char) : Option (List Char × List Char) := do
  let (integer, rest) ← readInteger? text
  let (fraction, rest) ← readFraction? rest
  let (exponent, rest) ← readExponent? rest
  return (integer ++ fraction ++ exponent, rest)

/-- Reads a number. -/
def readNumber? (text : List Char) : Option (List Char × List Char) :=
  match text with
  | '-' :: rest => (readUnsigned? rest).map fun (digits, rest) => ('-' :: digits, rest)
  | text => readUnsigned? text

/-! ## Values -/

/-- Reads the name of a field, and the colon behind it. -/
def readName? (text : List Char) : Option (List Char × List Char) :=
  match skipBlanks text with
  | '"' :: rest =>
    match readString? [] rest with
    | none => none
    | some (name, rest) =>
      match skipBlanks rest with
      | ':' :: rest => some (name, rest)
      | _ => none
  | _ => none

mutual
/-- Reads a value; `fuel` bounds the number of calls. -/
def readValue? : (fuel : Nat) → List Char → Option (Json × List Char)
  | 0, _ => none
  | fuel + 1, text =>
    match skipBlanks text with
    | 'n' :: 'u' :: 'l' :: 'l' :: rest => some (.null, rest)
    | 't' :: 'r' :: 'u' :: 'e' :: rest => some (.bool true, rest)
    | 'f' :: 'a' :: 'l' :: 's' :: 'e' :: rest => some (.bool false, rest)
    | '"' :: rest => (readString? [] rest).map fun (token, rest) => (.string token, rest)
    | '[' :: rest =>
      match skipBlanks rest with
      | ']' :: rest => some (.array [], rest)
      | rest => readItems? fuel [] rest
    | '\x7b' :: rest =>
      match skipBlanks rest with
      | '\x7d' :: rest => some (.object [], rest)
      | rest => readFields? fuel [] rest
    | text => (readNumber? text).map fun (token, rest) => (.number token, rest)

/-- Reads one item or more, up to the closing bracket; `acc` holds those read before, in reverse. -/
def readItems? : (fuel : Nat) → (acc : List Json) → List Char → Option (Json × List Char)
  | 0, _, _ => none
  | fuel + 1, acc, text =>
    match readValue? fuel text with
    | none => none
    | some (item, rest) =>
      match skipBlanks rest with
      | ',' :: rest => readItems? fuel (item :: acc) rest
      | ']' :: rest => some (.array (item :: acc).reverse, rest)
      | _ => none

/-- Reads one field or more, up to the closing brace; `acc` holds those read before, in reverse. -/
def readFields? :
    (fuel : Nat) → (acc : List (List Char × Json)) → List Char → Option (Json × List Char)
  | 0, _, _ => none
  | fuel + 1, acc, text =>
    match readName? text with
    | none => none
    | some (name, rest) =>
      match readValue? fuel rest with
      | none => none
      | some (value, rest) =>
        match skipBlanks rest with
        | ',' :: rest => readFields? fuel ((name, value) :: acc) rest
        | '\x7d' :: rest => some (.object ((name, value) :: acc).reverse, rest)
        | _ => none
end

/-- Reads a text that holds one value.  A bracket takes two calls, a comma one. -/
def parse? (text : List Char) : Option Json :=
  match readValue? (2 * text.length + 2) text with
  | none => none
  | some (value, rest) => if (skipBlanks rest).isEmpty then some value else none

end Json
end BatchInbox
