import BatchInbox.InboxTx.Json
import BatchInbox.Json.Raw

/-!
# The cache of transactions

The transactions to the inbox of an L1 block do not change once the block is final, so they are kept
on disk, one file per L2 chain and block.  A file says which version of the format it is in and
which block it is for; one that does not read, or is not what it should be, counts as missing.

## What is here

* `Disk.Entry` — what is at a path; `Disk.Entry.json?` — the value in a file.
* `Disk` — the files of a data directory; `Disk.load?`, `Disk.store?`.
* `Disk.path` — where a file is.
-/

set_option autoImplicit false
namespace BatchInbox

/-- What is at the path of a block. -/
inductive Disk.Entry where
  /-- A file with a text. -/
  | file (content : List Char)
  /-- A file whose bytes are no text. -/
  | binary (content : Bytes) (not_text : content.text? = none)
  | directory
  deriving DecidableEq

/-- The files of a data directory, by L2 chain and L1 block. -/
structure Disk where
  entries : List ((Word × Word) × Disk.Entry)
  deriving DecidableEq

namespace Disk

/-- No files. -/
def empty : Disk := ⟨[]⟩

/-- The version of the format. -/
def schemaVersion : Word := 1

/-! ## Files -/

/-- The content of the file for a block. -/
def content (block : Word) (txs : List InboxTx) : List Char :=
  (Json.ofFields
    [("schemaVersion", .ofWord schemaVersion), ("blockNumber", .ofWord block),
      ("transactions", .array (txs.map InboxTx.toJson))]).render

/-- The members of a file. -/
def members : List Json.Member :=
  [.required "schemaVersion", .required "blockNumber", .required "transactions"]

/-- Reads the version, the block and the transactions of a file. -/
def readJson? (json : Json) : Option (Word × Word × List InboxTx) := do
  match ← json.members? members with
  | [version, block, txs] =>
    return (
      ← Json.required? (Json.toBounded? UInt32.size) version,
      ← Json.required? Json.toWord? block,
      ← Json.required? (Json.toList? InboxTx.ofJson?) txs)
  | _ => none

/-- The value that a file holds. -/
def Entry.json? : Entry → Option Json
  | file content => Json.parse? content
  | binary content _ => Json.parseBytes? content
  | directory => none

/-- The transactions of a block, if the value is that of its file. -/
def readEnvelope? (block : Word) (json : Json) : Option (List InboxTx) :=
  match readJson? json with
  | none => none
  | some (version, stored, txs) =>
    if version = schemaVersion ∧ stored = block then some txs else none

/-! ## The data directory -/

/-- What is at the path of a block. -/
def find? (d : Disk) (l2ChainId block : Word) : Option Entry :=
  d.entries.lookup (l2ChainId, block)

/-- Puts something at the path of a block. -/
def put (d : Disk) (l2ChainId block : Word) (entry : Entry) : Disk :=
  ⟨((l2ChainId, block), entry) :: d.entries.filter (·.1 ≠ (l2ChainId, block))⟩

/-- The transactions of a block, if they are there. -/
def load? (d : Disk) (l2ChainId block : Word) : Option (List InboxTx) :=
  ((d.find? l2ChainId block).bind Entry.json?).bind (readEnvelope? block)

/-- Writes the transactions of a block in place of what was there, other than a directory. -/
def store? (d : Disk) (l2ChainId block : Word) (txs : List InboxTx) : Option Disk :=
  match d.find? l2ChainId block with
  | some .directory => none
  | _ => some (d.put l2ChainId block (.file (content block txs)))

/-- The blocks of a chain that something is there for. -/
def blocks (d : Disk) (l2ChainId : Word) : List Word :=
  (d.entries.filter (·.1.1 = l2ChainId)).map (·.1.2)

/-! ## Paths -/

/-- The name of a block's file. -/
def fileName (block : Word) : String := s!"{block}.json"

/-- A path below a directory. -/
def join (directory name : String) : String :=
  if directory.isEmpty || directory.endsWith "/" then directory ++ name
  else directory ++ "/" ++ name

/-- The path of a block's file, below the data directory. -/
def path (root : String) (l2ChainId block : Word) : String :=
  join (join (join root (toString l2ChainId)) "transactions_cache") (fileName block)

end Disk
end BatchInbox
