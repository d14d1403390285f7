import BatchInbox.Blank
import BatchInbox.Http.MediaType
import BatchInbox.Resolve.Remote

/-!
# Serving ranges by HTTP

`POST /span-batch-ranges` resolves the range in its body, against the nodes named there.
`GET /health` answers `ok`.

## What is here

* `RangeRequest` — the body of a request, with `RangeRequest.ofJson?`.
* `Backend` — the nodes that a body names; `Backend.remote` reaches them by a transport.
* `Server.answer` — the answer to a request.
-/

set_option autoImplicit false
namespace BatchInbox

/-! ## Requests and answers -/

/-- A request of the server. -/
structure HttpRequest where
  method : String
  target : String
  contentType? : Option String
  body : List Char

/-- An answer of the server. -/
structure HttpAnswer where
  status : Nat
  body : List Char
  deriving DecidableEq

/-- The body of a request for ranges. -/
structure RangeRequest where
  start : Word
  last : Word
  l2ChainId : Word
  l2Node : String
  l1Rpc : String
  l1Beacon : String
  /-- The batcher, in place of that of the chain. -/
  sender? : Option Address
  maxLength? : Option Word
  deriving DecidableEq

namespace RangeRequest
open Json (required? defaulted? optional?)

/-- The members of a request. -/
def members : List Json.Member :=
  [.required "startBlock", .required "endBlock", ⟨["l2ChainID", "l2ChainId"], .required⟩,
    .required "l2Node", ⟨["l1RPC", "l1Rpc"], .required⟩, .required "l1Beacon",
    .defaulted "batchSender", .defaulted "maxBlockRange"]

/-- Reads an address that may be missing, null or blank. -/
def readSender? (member : Option Json) : Option (Option Address) := do
  match ← optional? Json.toString? member with
  | none => return none
  | some text =>
    let trimmed := trimBlankSpace text.toList
    if trimmed.isEmpty then return none
    return some (← (Json.hexBytes? trimmed).bind (BytesN.ofList? 20))

/-- Reads a request. -/
def ofJson? (json : Json) : Option RangeRequest := do
  match ← json.members? members with
  | [start, last, l2ChainId, l2Node, l1Rpc, l1Beacon, sender, maxLength] =>
    return {
      start := ← required? Json.toWord? start
      last := ← required? Json.toWord? last
      l2ChainId := ← required? Json.toWord? l2ChainId
      l2Node := ← required? Json.toString? l2Node
      l1Rpc := ← required? Json.toString? l1Rpc
      l1Beacon := ← required? Json.toString? l1Beacon
      sender? := ← readSender? sender
      maxLength? := ← optional? Json.toWord? maxLength }
  | _ => none

end RangeRequest

/-! ## Nodes -/

/-- The nodes that a request names, for states of the world of type `σ`. -/
structure Backend (σ : Type) where
  /-- The parameters that a rollup node tells. -/
  rollup : (url : String) → Effect σ ResolveError Rollup
  /-- The ranges of L2 blocks, by an execution client and a beacon node. -/
  resolve : (l1 beacon : String) → Rollup → (start last : Word) →
    Effect (σ × Disk) ResolveError Resolution

/-- The nodes that a transport reaches. -/
def Backend.remote {σ : Type} (transport : Transport σ) (isCancelled : σ → Bool)
    (maxAttempts : Nat) (settings : ResolveSettings) : Backend (σ × Rollup.Memo) where
  rollup url := Rollup.fromNode transport maxAttempts url
  resolve l1 beacon c start last :=
    (resolveRemote transport isCancelled maxAttempts settings l1 beacon c start last).zoom
      (fun s => (s.1.1, s.2)) fun (world, disk) s => ((world, s.1.2), disk)

/-! ## Answers -/

namespace Server
variable {σ : Type}

/-- The ranges for a request. -/
def ranges (b : Backend σ) (r : RangeRequest) :
    Effect (σ × Disk) ResolveError (List BlockRange) := do
  let c ← (b.rollup r.l2Node).onFst
  if c.l2ChainId ≠ r.l2ChainId then
    throw (.invalidRequest (.wrongChain c.l2ChainId r.l2ChainId))
  let c := { c with batcher := r.sender?.getD c.batcher }
  let resolution ← b.resolve r.l1Rpc r.l1Beacon c r.start r.last
  return resolution.pieces r.maxLength?

/-- The body of a successful answer. -/
def rangesBody (ranges : List BlockRange) : List Char :=
  let range (r : BlockRange) : Json :=
    .ofFields [("start", .ofWord r.first), ("end", .ofWord r.last)]
  (Json.ofFields [("ranges", .array (ranges.map range))]).render

/-- An answer with an error. -/
def errorResponse (status : Nat) (error : String) : HttpAnswer :=
  ⟨status, (Json.ofFields [("error", .ofString error)]).render⟩

/-- The answer to a body that does not read. -/
def badRequest : HttpAnswer := errorResponse 400 "BadRequest: the body is no range request"

/-- The answer for an error. -/
def resolveResponse (e : ResolveError) : HttpAnswer :=
  errorResponse (if e.isClientError then 400 else 500) s!"{e.kind}: {e.message}"

/-- The request in a body, if it says that it is JSON and is. -/
def readBody? (request : HttpRequest) : Option RangeRequest :=
  match request.contentType? with
  | none => none
  | some type =>
    if MediaType.isJson type then (Json.parse? request.body).bind RangeRequest.ofJson? else none

/-- The answer to a request for ranges. -/
def answerRanges (b : Backend σ) (request : HttpRequest) : StateM (σ × Disk) HttpAnswer := do
  match readBody? request with
  | none => return badRequest
  | some r =>
    match ← (ranges b r).run with
    | .ok ranges => return ⟨200, rangesBody ranges⟩
    | .error e => return resolveResponse e

/-- The path of a target, without the query behind it. -/
def pathOf (target : String) : String := String.ofList (target.toList.takeWhile (· ≠ '?'))

/-- The answer to a request.  Every path answers to what a browser asks in advance of a request from
another site. -/
def answer (b : Backend σ) (request : HttpRequest) : StateM (σ × Disk) HttpAnswer :=
  if request.method = "OPTIONS" then return ⟨200, []⟩
  else
    match pathOf request.target, request.method with
    | "/span-batch-ranges", "POST" => answerRanges b request
    | "/health", "GET" => return ⟨200, "ok".toList⟩
    | "/health", "HEAD" => return ⟨200, []⟩
    | "/span-batch-ranges", _ | "/health", _ => return ⟨405, []⟩
    | _, _ => return ⟨404, []⟩

end Server
end BatchInbox
