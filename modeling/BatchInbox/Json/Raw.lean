import BatchInbox.Bytes
import BatchInbox.Json.Syntax

/-!
# JSON in bytes

The bytes of a file need not be text.  Outside of strings only some characters are allowed, and each
of them is a byte; inside a string the bytes matter only if the string is read, and one that is
skipped may hold any.  So the value is read with a character for each byte, and its strings are made
text behind that.

## What is here

* `Bytes.text?` — the text that bytes are in UTF-8.
* `Json.parseBytes?` — reads bytes that hold one value.
-/

set_option autoImplicit false
namespace BatchInbox

/-- The characters whose UTF-8 the bytes are. -/
def Bytes.text? (bytes : Bytes) : Option (List Char) :=
  (String.fromUTF8? ⟨bytes.toArray⟩).map String.toList

namespace Json

/-- A token that stands for no text: half a pair of surrogates. -/
def halfPair : List Char := ['\\', 'u', 'd', '8', '0', '0']

/-- The token whose bytes were read as characters.  What is no text is replaced by a token that
stands for none. -/
def textToken (token : List Char) : List Char :=
  (Bytes.text? (token.map (·.toNat.toUInt8))).getD halfPair

mutual
/-- The value whose bytes were read as characters. -/
def ofRaw : Json → Json
  | string token => string (textToken token)
  | array items => array (ofRawItems items)
  | object fields => object (ofRawFields fields)
  | value => value

/-- The items whose bytes were read as characters. -/
def ofRawItems : List Json → List Json
  | [] => []
  | item :: items => ofRaw item :: ofRawItems items

/-- The fields whose bytes were read as characters. -/
def ofRawFields : List (List Char × Json) → List (List Char × Json)
  | [] => []
  | (name, value) :: fields => (textToken name, ofRaw value) :: ofRawFields fields
end

/-- Reads bytes that hold one value. -/
def parseBytes? (bytes : Bytes) : Option Json :=
  (parse? (bytes.map fun b => Char.ofNat b.toNat)).map ofRaw

end Json
end BatchInbox
