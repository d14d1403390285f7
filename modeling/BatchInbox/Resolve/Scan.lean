import BatchInbox.Beacon
import BatchInbox.Intake
import BatchInbox.L1.Source

/-!
# Reading the window

The blocks of the window are read in order, each with its transactions to the inbox and their blobs,
and the channels that close on the way are collected.  Blocks are fetched ahead of the one that is
read, as many as the caller allows.

Before each step the caller is asked whether to go on.  A step that has begun is not given up, but a
block comes through the disk, which takes time: a caller who gives up while it is fetched does not
have it read.

## What is here

* `Session` — the world, the disk, and what is known of blobs.
* `Endpoints` — an execution client, a beacon node, and whether the caller has given up.
* `Lookahead` — the blocks that are fetched ahead.
* `scan` — the channels that close in a window, and those that do not.
-/

set_option autoImplicit false
namespace BatchInbox

/-- The world, the disk, and what is known of blobs. -/
structure Session (σ : Type) where
  world : σ
  disk : Disk
  blobs : BlobMemo

/-- Where L1 blocks and blobs come from, for states of the world of type `σ`. -/
structure Endpoints (σ : Type) where
  l1 : L1Source σ
  beacon : BlobSource σ
  /-- The caller has given up. -/
  isCancelled : σ → Bool

section
variable {σ ε α : Type}

/-- A computation on the world. -/
def onWorld (e : Effect σ ε α) : Effect (Session σ) ε α :=
  e.zoom (·.world) fun world s => { s with world }

/-- A computation on the world and the disk. -/
def onDisk (e : Effect (σ × Disk) ε α) : Effect (Session σ) ε α :=
  e.zoom (fun s => (s.world, s.disk)) fun (world, disk) s => { s with world, disk }

/-- A computation on the world and what is known of blobs. -/
def onBlobs (e : Effect (σ × BlobMemo) ε α) : Effect (Session σ) ε α :=
  e.zoom (fun s => (s.world, s.blobs)) fun (world, blobs) s => { s with world, blobs }

/-- A step, unless the caller has given up before it. -/
def Endpoints.unlessCancelled (u : Endpoints σ) (e : Effect (Session σ) ResolveError α) :
    Effect (Session σ) ResolveError α := do
  if u.isCancelled (← get).world then throw .cancelled else e

/-! ## Fetching ahead -/

/-- A block that was fetched, with the wanted transactions. -/
abbrev FetchedBlock := Except RpcError (Word × List InboxTx)

/-- Blocks to fetch, and blocks that were fetched and not read yet. -/
structure Lookahead where
  waiting : List Word
  ready : List FetchedBlock

/-- Fetches `room` of the blocks: those that were fetched, behind `ready`, and the others. -/
def fetchSome (q : InboxQuery) (source : L1Source σ) (ready : List FetchedBlock) :
    (room : Nat) → List Word → Effect (σ × Disk) ResolveError Lookahead
  | 0, waiting => return ⟨waiting, ready⟩
  | _ + 1, [] => return ⟨[], ready⟩
  | room + 1, number :: waiting => do
    let fetched ← (q.fetch source number).attempt
    fetchSome q source (ready ++ [fetched.map fun txs => (number, txs)]) room waiting

/-- The next block, once `concurrency` blocks are fetched ahead. -/
def Lookahead.next (l : Lookahead) (q : InboxQuery) (source : L1Source σ) (concurrency : Nat) :
    Effect (σ × Disk) ResolveError (Option (FetchedBlock × Lookahead)) := do
  let room := max 1 concurrency - l.ready.length
  match ← fetchSome q source l.ready room l.waiting with
  | ⟨_, []⟩ => return none
  | ⟨waiting, block :: ready⟩ => return some (block, ⟨waiting, ready⟩)

/-! ## Transactions -/

/-- The blob of a hash that was looked up. -/
def blobOf (tx : InboxTx) (found : BlobMap) (hash : Hash) : Except ResolveError Blob :=
  match found.lookup hash with
  | some blob => .ok blob
  | none => .error (.internal s!"blob {hashText hash} of tx {hashText tx.hash} not returned")

/-- The blobs of a transaction in the order in which it names them. -/
def blobsFor (source : BlobSource σ) (tx : InboxTx) :
    Effect (σ × BlobMemo) ResolveError (List Blob) := do
  if tx.payloadSource ≠ .blobs || tx.blobHashes.isEmpty then return []
  let found ← fetchBlobs source tx.time tx.blobHashes tx.blobIndices
  match tx.blobHashes.mapM (blobOf tx found) with
  | .error e => throw e
  | .ok blobs => return blobs

/-- The result of a step of the intake. -/
def ofIntake (step : Except Intake.Error α × Intake) :
    Effect (Session σ) ResolveError (α × Intake) :=
  match step with
  | (.ok a, intake) => return (a, intake)
  | (.error e, _) => throw (.internal e.message)

/-- Takes the transactions of a block; `closed` holds the channels closed so far. -/
def takeTxs (u : Endpoints σ) (intake : Intake) (closed : List ClosedChannel) :
    List InboxTx → Effect (Session σ) ResolveError (Intake × List ClosedChannel)
  | [] => return (intake, closed)
  | tx :: txs => do
    let blobs ← u.unlessCancelled (onBlobs (blobsFor u.beacon tx))
    let (done, intake) ← ofIntake (intake.push tx blobs)
    takeTxs u intake (closed ++ done) txs

/-! ## Blocks -/

/-- Reads a block that was fetched.  It was read from the disk or written to it, so the caller is
asked before anything is made of it. -/
def takeBlock (u : Endpoints σ) (intake : Intake) (closed : List ClosedChannel) (number : Word)
    (txs : List InboxTx) : Effect (Session σ) ResolveError (Intake × List ClosedChannel) := do
  let ((), intake) ← u.unlessCancelled (ofIntake (intake.advance number))
  takeTxs u intake closed txs

/-- Reads the blocks that are left, at most `rounds - 1` of them. -/
def scanFrom (u : Endpoints σ) (q : InboxQuery) (concurrency : Nat) :
    (rounds : Nat) → Lookahead → Intake → List ClosedChannel →
      Effect (Session σ) ResolveError (Intake × List ClosedChannel)
  | 0, _, intake, closed => return (intake, closed)
  | rounds + 1, ahead, intake, closed => do
    match ← u.unlessCancelled (onDisk (ahead.next q u.l1 concurrency)) with
    | none => return (intake, closed)
    | some (.error cause, _) => throw (.l1Fetch cause)
    | some (.ok (number, txs), ahead) =>
      let (intake, closed) ← takeBlock u intake closed number txs
      scanFrom u q concurrency rounds ahead intake closed

/-- Reads the blocks from `first` to `last`: the channels that close, in that order, and those that
do not. -/
def scan (u : Endpoints σ) (c : Rollup) (concurrency : Nat) (first last : Word) :
    Effect (Session σ) ResolveError (List ClosedChannel × List DroppedChannel) := do
  let blocks := InboxQuery.blocksBetween first last
  let query : InboxQuery := ⟨c.l2ChainId, c.inbox, c.batcher⟩
  let (intake, closed) ← scanFrom u query concurrency (blocks.length + 1) ⟨blocks, []⟩
    (.new c.channelTimeout) []
  return (closed, intake.close last)

end

end BatchInbox
