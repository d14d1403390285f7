import BatchInbox.Http.Transport
import BatchInbox.Json.Decode
import BatchInbox.Json.Raw
import BatchInbox.Json.Value

/-!
# JSON-RPC

A client numbers its requests from 1 on; an attempt that is made again gets a number of its own.  An
answer with an error is an error, whatever result comes with it.

## What is here

* `JsonRpc.Client` — the node that is asked.
* `JsonRpc.request`, `JsonRpc.readResponse` — the texts that are sent and received.
* `JsonRpc.Client.call` — asks for a result of any type.
-/

set_option autoImplicit false
namespace BatchInbox.JsonRpc

/-- The text of a request. -/
def request (id : Nat) (method : String) (params : Json) : List Char :=
  (Json.ofFields
    [("jsonrpc", .ofString "2.0"), ("id", .number (Decimal.digits id)),
      ("method", .ofString method), ("params", params)]).render

/-! ## Answers -/

/-- A number of 64 bits with a sign. -/
def toInt? : Json → Option Int
  | .number token =>
    match Json.Number.ofToken token with
    | .natural w => if w.toNat < 1 <<< 63 then some w.toNat else none
    | .negative magnitude => some (-(magnitude.toNat : Int))
    | .other _ => none
  | _ => none

/-- Reads an error: its code and its message. -/
def readError? (json : Json) : Option (Int × String) := do
  match ← json.members? [.required "code", .required "message"] with
  | [code, message] =>
    return (← Json.required? toInt? code, ← Json.required? Json.toString? message)
  | _ => none

/-- Reads a result, which may be anything that makes sense inside of the answer. -/
def readResult? (json : Json) : Option Json :=
  if json.isSound (Json.maxDepth - 1) then some json.settle else none

/-- Reads an answer: its result, which is null if it is missing, and its error, if any. -/
def readResponse? (body : Bytes) : Option (Json × Option (Int × String)) := do
  match ← (← Json.parseBytes? body).members? [.defaulted "result", .optional "error"] with
  | [result, error] =>
    return (← Json.defaulted? .null readResult? result, ← Json.optional? readError? error)
  | _ => none

/-- The result of an answer to a method, read by `read`. -/
def readResponse {α : Type} (method : String) (read : Json → Option α) (body : Bytes) :
    Except RpcError α :=
  match readResponse? body with
  | none => .error (.malformed (.unreadable method))
  | some (_, some (code, message)) => .error (.rpc code message)
  | some (result, none) =>
    match read result with
    | none => .error (.malformed (.unreadable method))
    | some a => .ok a

/-! ## Clients -/

/-- The node that is asked. -/
structure Client where
  url : String
  maxAttempts : Nat
  deriving DecidableEq, Repr

section
variable {σ α : Type}

/-- Takes the next number. -/
def nextId : Effect (σ × Word) RpcError Word := do
  let (_, id) ← get
  modify fun (world, id) => (world, id + 1)
  return id

/-- One attempt.  The second part of the state is the number of the next request. -/
def Client.callOnce (c : Client) (transport : Transport σ) (method : String) (params : Json)
    (read : Json → Option α) : Effect (σ × Word) RpcError α := do
  let id ← nextId
  let response ←
    (sendTo (trimSlashes c.url) fun url =>
      transport.post url (request id.toNat method params)).onFst
  if !response.isSuccess then throw response.error
  match readResponse method read response.body with
  | .error e => throw e
  | .ok a => return a

/-- Calls a method. -/
def Client.call (c : Client) (transport : Transport σ) (method : String) (params : Json)
    (read : Json → Option α) : Effect (σ × Word) RpcError α :=
  withRetries (c.callOnce transport method params read) (attempts c.maxAttempts - 1)

end

/-- The number of a client's first request. -/
def firstId : Word := 1

end BatchInbox.JsonRpc
