import BatchInbox.Beacon
import BatchInbox.Http.Transport
import BatchInbox.Json.Decode
import BatchInbox.Json.Raw

/-!
# Beacon nodes

A beacon node serves the clock of the chain in two parts, and the sidecars of a slot.  A slot that
it does not know has none.
-/

set_option autoImplicit false
namespace BatchInbox.Beacon
open Json (required?)

/-! ## Answers -/

/-- Reads what an answer holds. -/
def readData? {α : Type} (read : Json → Option α) (json : Json) : Option α := do
  match ← json.members? [.required "data"] with
  | [data] => required? read data
  | _ => none

/-- Reads a field with a text. -/
def readText? (name : String) (json : Json) : Option String := do
  match ← json.members? [.required name] with
  | [text] => required? Json.toString? text
  | _ => none

/-- A decimal number in a string. -/
def toDecimal? (json : Json) : Option Word :=
  json.toString?.bind fun text => Decimal.readWord? text.toList

/-- Checks the header of a block. -/
def readMessage? (json : Json) : Option Unit := do
  match ← json.members? [.required "slot", .required "proposer_index", .required "parent_root",
      .required "state_root", .required "body_root"] with
  | [slot, proposer, parent, state, body] =>
    let _ ← required? toDecimal? slot
    let _ ← required? toDecimal? proposer
    let _ ← required? (Json.toFixed? 32) parent
    let _ ← required? (Json.toFixed? 32) state
    let _ ← required? (Json.toFixed? 32) body
  | _ => none

/-- Checks the signed header of a block. -/
def readHeader? (json : Json) : Option Unit := do
  match ← json.members? [.required "message", .required "signature"] with
  | [message, signature] =>
    let _ ← required? readMessage? message
    let _ ← required? (Json.toFixed? 96) signature
  | _ => none

/-- The members of a sidecar. -/
def sidecarMembers : List Json.Member :=
  [.required "index", .required "blob", .required "kzg_commitment", .required "kzg_proof",
    .required "signed_block_header", .required "kzg_commitment_inclusion_proof"]

/-- Reads a sidecar. -/
def readSidecar? (json : Json) : Option BlobSidecar := do
  match ← json.members? sidecarMembers with
  | [index, blob, commitment, proof, header, inclusion] =>
    let _ ← required? (Json.toFixed? 48) proof
    let _ ← required? readHeader? header
    let _ ← required? (Json.toList? (Json.toFixed? 32)) inclusion
    return {
      index := ← required? toDecimal? index
      commitment := (← required? (Json.toFixed? 48) commitment).toList
      blob := ← required? (Json.toFixed? 131072) blob }
  | _ => none

/-! ## Clients -/

/-- The node that is asked. -/
structure Client where
  url : String
  maxAttempts : Nat
  deriving DecidableEq, Repr

namespace Client
variable {σ α : Type}

/-- One attempt; there is no result if the node does not know the path. -/
def getOnce (transport : Transport σ) (url : String) (read : Json → Option α) :
    Effect σ RpcError (Option α) := do
  let response ← sendTo url transport.get
  if response.status = 404 then return none
  if !response.isSuccess then throw response.error
  match (Json.parseBytes? response.body).bind read with
  | none => throw (.malformed (.unreadable url))
  | some a => return some a

/-- What the node has at a path, if it knows it. -/
def get? (c : Client) (transport : Transport σ) (path : String) (read : Json → Option α) :
    Effect σ RpcError (Option α) :=
  withRetries (getOnce transport (trimSlashes c.url ++ path) read) (attempts c.maxAttempts - 1)

/-- What the node has at a path that it has to know. -/
def getData (c : Client) (transport : Transport σ) (path : String) (read : Json → Option α) :
    Effect σ RpcError α := do
  match ← c.get? transport path (readData? read) with
  | none => throw (.notFound path)
  | some a => return a

/-- The number in a field. -/
def decimal (field text : String) : Effect σ RpcError Word :=
  match Decimal.readWord? text.toList with
  | none => throw (.malformed (.notDecimal field text))
  | some w => return w

/-- The clock of the chain. -/
def timing (c : Client) (transport : Transport σ) : Effect σ RpcError BeaconTiming := do
  let genesis ← c.getData transport "/eth/v1/beacon/genesis" (readText? "genesis_time")
  let slot ← c.getData transport "/eth/v1/config/spec" (readText? "SECONDS_PER_SLOT")
  return ⟨← decimal "genesis_time" genesis, ← decimal "SECONDS_PER_SLOT" slot⟩

/-- The sidecars of a slot. -/
def sidecars (c : Client) (transport : Transport σ) (slot : Word) :
    Effect σ RpcError (List BlobSidecar) := do
  let path := s!"/eth/v1/beacon/blob_sidecars/{slot}"
  return (← c.get? transport path (readData? (Json.toList? readSidecar?))).getD []

/-- The beacon node at the other end. -/
def blobSource (c : Client) (transport : Transport σ) : BlobSource σ where
  timing := c.timing transport
  sidecars := c.sidecars transport

end Client
end BatchInbox.Beacon
