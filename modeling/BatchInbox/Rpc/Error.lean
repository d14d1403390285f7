import BatchInbox.Http.Url
import BatchInbox.Rollup

/-!
# What can go wrong when a node is asked

The request may not get through, the node may answer with an error, or its answer may not be what
was asked for.  Only what may be different the next time is worth another attempt.

## What is here

* `TransportError`, `Malformed`, `RpcError` — the errors, with their texts.
* `RpcError.isRetryable` — whether another attempt is worth it.
-/

set_option autoImplicit false
namespace BatchInbox

/-- Why a request does not get through. -/
inductive TransportError where
  /-- The URL cannot be used. -/
  | badUrl (cause : Url.Error)
  /-- There was no answer from the URL; `causes` goes from the outermost reason to the innermost. -/
  | noAnswer (url : String) (causes : List String)
  deriving DecidableEq, Repr

namespace TransportError

/-- The text of an error. -/
def message : TransportError → String
  | badUrl (.badScheme url) => s!"builder error for url ({url})"
  | badUrl _ => "builder error"
  | noAnswer url _ => s!"error sending request for url ({url})"

/-- The texts of the reasons behind an error. -/
def causes : TransportError → List String
  | badUrl cause => [cause.message]
  | noAnswer _ causes => causes

end TransportError

/-- Why an answer is not what was asked for. -/
inductive Malformed where
  /-- The answer to the named request is no JSON of the expected form. -/
  | unreadable (request : String)
  /-- A field should be a decimal number. -/
  | notDecimal (field text : String)
  | zeroSlotTime
  | beforeBeaconGenesis (time genesisTime : Word)
  | rollup (cause : Rollup.Error)
  deriving DecidableEq, Repr

namespace Malformed

/-- A character that is not shown as it is. -/
def isHidden (c : Char) : Bool :=
  let n := c.toNat
  n < 32 || (127 ≤ n && n < 160) || n = 0xad || (0x200b ≤ n && n < 0x2010) ||
    (0x2028 ≤ n && n < 0x202f) || (0x2060 ≤ n && n < 0x2070) || n = 0xfeff

/-- A character between quotes. -/
def quoteChar (c : Char) : List Char :=
  if c = '"' then ['\\', '"']
  else if c = '\\' then ['\\', '\\']
  else if c = '\n' then ['\\', 'n']
  else if c = '\r' then ['\\', 'r']
  else if c = '\t' then ['\\', 't']
  else if c.toNat = 0 then ['\\', '0']
  else if isHidden c then '\\' :: 'u' :: '\x7b' :: Nat.toDigits 16 c.toNat ++ ['\x7d']
  else [c]

/-- A text between quotes. -/
def quote (text : String) : String :=
  String.ofList ('"' :: text.toList.flatMap quoteChar ++ ['"'])

/-- The text of a fault. -/
def message : Malformed → String
  | unreadable request => request
  | notDecimal field text => s!"{field}: {quote text}"
  | zeroSlotTime => "beacon reports zero seconds per slot"
  | beforeBeaconGenesis time genesisTime =>
    s!"block time {time} precedes beacon genesis {genesisTime}"
  | rollup cause => cause.message

end Malformed

/-- What can go wrong when a node is asked. -/
inductive RpcError where
  | transport (cause : TransportError)
  | status (code : Nat) (body : String)
  | rpc (code : Int) (message : String)
  | malformed (cause : Malformed)
  | notFound (what : String)
  deriving DecidableEq, Repr

namespace RpcError

/-- The text of an error. -/
def message : RpcError → String
  | transport cause => s!"transport: {cause.message}"
  | status code body => s!"http {code}: {body}"
  | rpc code message => s!"rpc error {code}: {message}"
  | malformed cause => s!"malformed response: {cause.message}"
  | notFound what => s!"{what} not found"

/-- The texts of the reasons behind an error. -/
def causes : RpcError → List String
  | transport cause => cause.message :: cause.causes
  | _ => []

/-- Another attempt may succeed: there was no answer, or the node is overloaded or down. -/
def isRetryable : RpcError → Bool
  | transport (.noAnswer _ _) => true
  | status code _ => code = 429 || 500 ≤ code
  | _ => false

end RpcError
end BatchInbox
