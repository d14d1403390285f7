import BatchInbox.Json.Decode
import BatchInbox.L1.Block

/-!
# L1 blocks as JSON

Numbers are quantities.  The type of a transaction is 0 if it is missing.
-/

set_option autoImplicit false
namespace BatchInbox
open Json (required? defaulted? optional?)

/-- A quantity that fits into a word. -/
def Json.toWordQuantity? : Json → Option Word := Json.toQuantity? UInt64.size

/-- Reads a header. -/
def L1Header.ofJson? (json : Json) : Option L1Header := do
  match ← json.members? [.required "number", .required "timestamp"] with
  | [number, timestamp] =>
    return ⟨← required? Json.toWordQuantity? number, ← required? Json.toWordQuantity? timestamp⟩
  | _ => none

/-- The members of a transaction. -/
def L1Tx.members : List Json.Member :=
  [.required "hash", .required "transactionIndex", .required "from", .optional "to",
    .defaulted "type", .required "input", .defaulted "blobVersionedHashes"]

/-- Reads a transaction. -/
def L1Tx.ofJson? (json : Json) : Option L1Tx := do
  match ← json.members? members with
  | [hash, index, sender, recipient, type, input, blobHashes] =>
    let type ← defaulted? 0 (Json.toQuantity? 256) type
    return {
      hash := ← required? (Json.toFixed? 32) hash
      index := ← required? Json.toWordQuantity? index
      sender := ← required? (Json.toFixed? 20) sender
      recipient? := ← optional? (Json.toFixed? 20) recipient
      type := type.toUInt8
      input := ← required? Json.toBytes? input
      blobHashes := (← optional? (Json.toList? (Json.toFixed? 32)) blobHashes).getD [] }
  | _ => none

/-- Reads a block. -/
def L1Block.ofJson? (json : Json) : Option L1Block := do
  match ← json.members? [.required "number", .required "timestamp", .required "transactions"] with
  | [number, timestamp, txs] =>
    return {
      number := ← required? Json.toWordQuantity? number
      timestamp := ← required? Json.toWordQuantity? timestamp
      txs := ← required? (Json.toList? L1Tx.ofJson?) txs }
  | _ => none

end BatchInbox
