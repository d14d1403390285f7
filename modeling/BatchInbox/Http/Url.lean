import BatchInbox.Decimal

/-!
# URLs

A URL is brought into a normal form before it is used: scheme and host in lower case, no number
behind the host that goes without saying, and a path that is never empty.  Only hosts can be asked
for something, and only by HTTP.

## What is here

* `Url` — a URL that can be asked; `Url.parse` reads one, `Url.text` is its normal form.
-/

set_option autoImplicit false
namespace BatchInbox

/-- A URL that can be asked. -/
structure Url where
  isSecure : Bool
  host : List Char
  /-- The number behind the host, if it is not the usual one. -/
  number? : Option Nat
  /-- The path and what follows it. -/
  target : List Char
  deriving DecidableEq

namespace Url

/-- Why a URL cannot be used. -/
inductive Error where
  | noScheme
  | noHost
  | badNumber
  | badHost
  /-- The URL is not for HTTP. -/
  | badScheme (url : String)
  deriving DecidableEq, Repr

/-- The text of an error. -/
def Error.message : Error → String
  | noScheme => "relative URL without a base"
  | noHost => "empty host"
  | badNumber => "invalid port number"
  | badHost => "invalid international domain name"
  | badScheme _ => "URL scheme is not allowed"

/-! ## Writing -/

/-- The name of the scheme. -/
def scheme (u : Url) : String := if u.isSecure then "https" else "http"

/-- The normal form. -/
def text (u : Url) : String :=
  let number :=
    match u.number? with
    | none => ""
    | some number => s!":{number}"
  s!"{u.scheme}://" ++ String.ofList u.host ++ number ++ String.ofList u.target

/-! ## Reading -/

/-- A control character or a blank. -/
def isTrimmed (c : Char) : Bool := c.toNat ≤ 32

/-- The text without what does not count: blanks around it, and line breaks. -/
def clean (text : List Char) : List Char :=
  ((text.dropWhile isTrimmed).reverse.dropWhile isTrimmed).reverse.filter fun c =>
    c ≠ '\t' && c ≠ '\n' && c ≠ '\r'

/-- A character of a scheme. -/
def isSchemeChar (c : Char) : Bool := c.isAlphanum || c = '+' || c = '-' || c = '.'

/-- The scheme in lower case, and what follows the colon. -/
def splitScheme? (text : List Char) : Option (List Char × List Char) :=
  let name := text.takeWhile isSchemeChar
  match name, text.dropWhile isSchemeChar with
  | first :: _, ':' :: rest => if first.isAlpha then some (name.map Char.toLower, rest) else none
  | _, _ => none

/-- A character that ends the host. -/
def endsHost (c : Char) : Bool := c = '/' || c = '\\' || c = '?' || c = '#'

/-- A character that cannot be part of a host. -/
def isForbidden (c : Char) : Bool :=
  c.toNat ≤ 32 || c.toNat = 127 || ['<', '>', '[', ']', '^', '|', '%', '@', ':'].contains c

/-- The host and its number, without the name and the password that may stand in front of them. -/
def withoutUser (authority : List Char) : List Char :=
  if authority.contains '@' then (authority.reverse.takeWhile (· ≠ '@')).reverse else authority

/-- The number behind a host, if it is not the usual one. -/
def readNumber (usual : Nat) (digits : List Char) : Except Error (Option Nat) :=
  if digits.isEmpty then .ok none
  else
    match Decimal.read? digits with
    | none => .error .badNumber
    | some number =>
      if UInt16.size ≤ number then .error .badNumber
      else .ok (if number = usual then none else some number)

/-- A host in brackets, or up to a colon, and the number behind it. -/
def readAuthority (usual : Nat) (authority : List Char) :
    Except Error (List Char × Option Nat) :=
  match authority with
  | '[' :: rest =>
    match rest.dropWhile (· ≠ ']') with
    | [']'] => .ok (authority.map Char.toLower, none)
    | ']' :: ':' :: digits =>
      (readNumber usual digits).map fun number =>
        (('[' :: rest.takeWhile (· ≠ ']') ++ [']']).map Char.toLower, number)
    | _ => .error .badHost
  | authority =>
    let host := authority.takeWhile (· ≠ ':')
    if host.isEmpty then .error .noHost
    else if host.any isForbidden then .error .badHost
    else
      (readNumber usual ((authority.dropWhile (· ≠ ':')).drop 1)).map fun number =>
        (host.map Char.toLower, number)

/-- The path and what follows it; a path that is missing is a slash. -/
def readTarget (rest : List Char) : List Char :=
  match rest with
  | '/' :: _ => rest
  | '\\' :: rest => '/' :: rest
  | rest => '/' :: rest

/-- Reads a URL. -/
def parse (text : String) : Except Error Url :=
  match splitScheme? (clean text.toList) with
  | none => .error .noScheme
  | some (name, rest) =>
    if name ≠ "http".toList ∧ name ≠ "https".toList then
      .error (.badScheme (String.ofList (name ++ ':' :: rest)))
    else
      let isSecure : Bool := name = "https".toList
      let rest := rest.dropWhile fun c => c = '/' || c = '\\'
      let authority := withoutUser (rest.takeWhile (!endsHost ·))
      match readAuthority (if isSecure then 443 else 80) authority with
      | .error e => .error e
      | .ok (host, number?) =>
        .ok ⟨isSecure, host, number?, readTarget (rest.dropWhile (!endsHost ·))⟩

end Url
end BatchInbox
