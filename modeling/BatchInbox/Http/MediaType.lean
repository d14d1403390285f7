/-!
# Media types

The media type of a body is a type and a subtype, such as `application/json`, with parameters behind
semicolons.  A subtype may say behind a plus sign what format it is built on.

## What is here

* `MediaType.isJson` — whether a body of the given type is JSON.
-/

set_option autoImplicit false
namespace BatchInbox.MediaType

/-- A character of a name or of a value without quotes. -/
def isTokenChar (c : Char) : Bool :=
  c.isAlphanum || "!#$%&'*+-.^_|~".toList.contains c || c.toNat = 96

/-- A character between quotes. -/
def isQuotedChar (c : Char) : Bool := 32 ≤ c.toNat && c.toNat < 127 && c ≠ '"'

/-- The parameters behind the first semicolon are well-formed.  Every round takes a character. -/
def areParameters : (rounds : Nat) → List Char → Bool
  | 0, text => text.isEmpty
  | rounds + 1, text =>
    match text.dropWhile (· = ' ') with
    | [] => true
    | text =>
      match text.takeWhile isTokenChar, text.dropWhile isTokenChar with
      | _ :: _, '=' :: '"' :: rest =>
        match rest.dropWhile isQuotedChar with
        | ['"'] => true
        | '"' :: ';' :: rest => areParameters rounds rest
        | _ => false
      | _ :: _, '=' :: rest =>
        match rest.takeWhile isTokenChar, rest.dropWhile isTokenChar with
        | _ :: _, [] => true
        | _ :: _, ';' :: rest => areParameters rounds rest
        | _, _ => false
      | _, _ => false

/-- What a subtype is built on, behind its last plus sign, if something stands in front of that. -/
def splitBase (subtype : List Char) : List Char × Option (List Char) :=
  let base := (subtype.reverse.takeWhile (· ≠ '+')).reverse
  let name := subtype.take (subtype.length - base.length - 1)
  if name.isEmpty then (subtype, none) else (name, some base)

/-- A subtype stands for JSON, by itself or by what it is built on. -/
def isJsonSubtype (subtype : List Char) : Bool :=
  let (name, base?) := splitBase (subtype.map Char.toLower)
  name = "json".toList || base? = some "json".toList

/-- A body of the given type is JSON. -/
def isJson (text : String) : Bool :=
  let type := text.toList.takeWhile isTokenChar
  match text.toList.dropWhile isTokenChar with
  | '/' :: rest =>
    let subtype := rest.takeWhile isTokenChar
    let parameters := rest.dropWhile isTokenChar
    type.map Char.toLower = "application".toList && isJsonSubtype subtype &&
      match parameters with
      | [] => true
      | ';' :: parameters => areParameters parameters.length parameters
      | _ => false
  | _ => false

end BatchInbox.MediaType
