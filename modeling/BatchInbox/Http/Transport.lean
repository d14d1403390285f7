import BatchInbox.Effect
import BatchInbox.Rpc.Error
import BatchInbox.Utf8

/-!
# Asking by HTTP

A transport sends a request to a URL and returns the answer.  A request that fails in a way that may
pass is sent again, up to a number of attempts.

## What is here

* `Transport` — how requests are sent; `Transport.offline` has no network to send them to.
* `withRetries` — several attempts; `attempts` — how many there may be.
-/

set_option autoImplicit false
namespace BatchInbox

/-- The answer to a request. -/
structure HttpResponse where
  status : Nat
  body : Bytes
  deriving DecidableEq

/-- The request was successful. -/
def HttpResponse.isSuccess (r : HttpResponse) : Bool := 200 ≤ r.status && r.status < 300

/-- How requests are sent, for states of the world of type `σ`. -/
structure Transport (σ : Type) where
  get : Url → Effect σ TransportError HttpResponse
  post : Url → (body : List Char) → Effect σ TransportError HttpResponse

section
variable {σ α : Type}

/-- No network. -/
def Transport.offline : Transport σ where
  get url := throw (unreachable url)
  post url _ := throw (unreachable url)
where
  /-- There is no way to the URL. -/
  unreachable (url : Url) : TransportError :=
    .noAnswer url.text
      ["client error (Connect)", "tcp connect error", "Network is unreachable (os error 101)"]

/-- Sends a request to the URL that a text stands for. -/
def sendTo (url : String) (send : Url → Effect σ TransportError HttpResponse) :
    Effect σ RpcError HttpResponse :=
  match Url.parse url with
  | .error cause => throw (.transport (.badUrl cause))
  | .ok url => (send url).mapError .transport

/-- The error for an answer without success. -/
def HttpResponse.error (r : HttpResponse) : RpcError :=
  .status r.status (String.ofList r.body.lossyText)

/-- The URL without slashes at its end. -/
def trimSlashes (url : String) : String :=
  String.ofList ((url.toList.reverse.dropWhile (· = '/')).reverse)

/-- The number of attempts, which is never zero. -/
def attempts (maxAttempts : Nat) : Nat := max 1 maxAttempts

/-- Makes a request, and makes it again up to `more` times while that is worth it. -/
def withRetries (request : Effect σ RpcError α) : (more : Nat) → Effect σ RpcError α
  | 0 => request
  | more + 1 => do
    match ← request.attempt with
    | .ok a => return a
    | .error e => if e.isRetryable then withRetries request more else throw e

end

end BatchInbox
