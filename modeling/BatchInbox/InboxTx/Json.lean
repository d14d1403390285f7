import BatchInbox.InboxTx
import BatchInbox.Json.Decode

/-!
# Transactions to the inbox as JSON

The lists that describe blobs are left out if they are empty.
-/

set_option autoImplicit false
namespace BatchInbox.InboxTx
open Json (required? defaulted?)

/-- The members of a transaction. -/
def members : List Json.Member :=
  [.required "blockNumber", .required "blockTime", .required "txIndex", .required "txHash",
    .required "sender", .required "to", .required "txType", .required "calldata",
    .defaulted "blobHashes", .defaulted "blobIndices"]

/-- Reads a transaction. -/
def ofJson? (json : Json) : Option InboxTx := do
  match ← json.members? members with
  | [block, time, index, hash, sender, recipient, type, calldata, blobHashes, blobIndices] =>
    return {
      block := ← required? Json.toWord? block
      time := ← required? Json.toWord? time
      index := ← required? Json.toWord? index
      hash := ← required? (Json.toFixed? 32) hash
      sender := ← required? (Json.toFixed? 20) sender
      recipient := ← required? (Json.toFixed? 20) recipient
      type := ← required? Json.toByte? type
      calldata := ← required? Json.toBytes? calldata
      blobHashes := ← defaulted? [] (Json.toList? (Json.toFixed? 32)) blobHashes
      blobIndices := ← defaulted? [] (Json.toList? Json.toWord?) blobIndices }
  | _ => none

/-- A field for a list that is not empty. -/
def listField {α : Type} (name : String) (write : α → Json) (items : List α) :
    List (String × Json) :=
  if items.isEmpty then [] else [(name, .array (items.map write))]

/-- The transaction as an object. -/
def toJson (tx : InboxTx) : Json :=
  .ofFields
    ([("blockNumber", .ofWord tx.block), ("blockTime", .ofWord tx.time),
        ("txIndex", .ofWord tx.index), ("txHash", .ofBytes tx.hash.toList),
        ("sender", .ofBytes tx.sender.toList), ("to", .ofBytes tx.recipient.toList),
        ("txType", .ofWord tx.type.toUInt64), ("calldata", .ofBytes tx.calldata)] ++
      listField "blobHashes" (fun h => .ofBytes h.toList) tx.blobHashes ++
      listField "blobIndices" .ofWord tx.blobIndices)

end BatchInbox.InboxTx
