import BatchInbox.Blob
import BatchInbox.Effect
import BatchInbox.Resolve.Error
import BatchInbox.Sha256

/-!
# Blobs from the beacon chain

Blobs are not part of an L1 block.  A beacon node keeps them as sidecars of the slot in which the
block was made, and a transaction names them by a hash of the commitments that come with them.

## What is here

* `BeaconTiming` — which slot a time is in.
* `BlobSidecar`, `BlobSidecar.versionedHash` — blobs and their hashes.
* `BlobSource` — a beacon node.
* `BlobMemo`, `fetchBlobs` — the blobs that a transaction names.  The timing is asked for once, and
  the sidecars of the last slot are kept.
-/

set_option autoImplicit false
namespace BatchInbox

/-! ## Slots -/

/-- The clock of the beacon chain. -/
structure BeaconTiming where
  genesisTime : Word
  secondsPerSlot : Word
  deriving DecidableEq, Repr

/-- The slot that a time is in. -/
def BeaconTiming.slotAt (t : BeaconTiming) (time : Word) : Except RpcError Word :=
  if t.secondsPerSlot = 0 then .error (.malformed .zeroSlotTime)
  else
    match Word.sub? time t.genesisTime with
    | none => .error (.malformed (.beforeBeaconGenesis time t.genesisTime))
    | some elapsed => .ok (elapsed / t.secondsPerSlot)

/-! ## Sidecars -/

/-- A blob in a slot. -/
structure BlobSidecar where
  index : Word
  commitment : Bytes
  blob : Blob
  deriving DecidableEq

/-- The hash by which a transaction names the blob: that of the commitment, with a version in place
of its first byte. -/
def BlobSidecar.versionedHash (s : BlobSidecar) : Hash where
  toList := 1 :: (Sha256.hash s.commitment).toList.drop 1
  length_toList := by simp [(Sha256.hash s.commitment).length_toList]

/-- A beacon node, for states of the world of type `σ`. -/
structure BlobSource (σ : Type) where
  timing : Effect σ RpcError BeaconTiming
  /-- The sidecars of a slot. -/
  sidecars : Word → Effect σ RpcError (List BlobSidecar)

/-! ## Blobs by hash -/

/-- What is kept between look-ups. -/
structure BlobMemo where
  timing? : Option BeaconTiming
  /-- The last slot, and its sidecars. -/
  slot? : Option (Word × List BlobSidecar)
  deriving DecidableEq

/-- Nothing is known yet. -/
def BlobMemo.empty : BlobMemo := ⟨none, none⟩

/-- Blobs by hash. -/
abbrev BlobMap := List (Hash × Blob)

/-- Sets the blob of a hash. -/
def BlobMap.set (blobs : BlobMap) (hash : Hash) (blob : Blob) : BlobMap :=
  blobs.filter (·.1 ≠ hash) ++ [(hash, blob)]

/-- The sidecar at an index, which has to be the blob of the hash. -/
def sidecarAt (sidecars : List BlobSidecar) (slot : Word) (hash : Hash) (index : Word) :
    Except ResolveError BlobSidecar :=
  match sidecars.find? (·.index = index) with
  | none => .error (.blobMissing slot hash)
  | some s =>
    if s.versionedHash = hash then .ok s else .error (.blobMismatch slot s.index hash)

/-- The sidecar with the blob of a hash. -/
def sidecarOf (sidecars : List BlobSidecar) (slot : Word) (hash : Hash) :
    Except ResolveError BlobSidecar :=
  match sidecars.find? (·.versionedHash = hash) with
  | none => .error (.blobMissing slot hash)
  | some s => .ok s

/-- The blobs of hashes, with the index of each, or without if it is to be found by its hash. -/
def selectBlobs (sidecars : List BlobSidecar) (slot : Word) (blobs : BlobMap) :
    List (Hash × Option Word) → Except ResolveError BlobMap
  | [] => .ok blobs
  | (hash, index?) :: wanted =>
    let found :=
      match index? with
      | some index => sidecarAt sidecars slot hash index
      | none => sidecarOf sidecars slot hash
    match found with
    | .error e => .error e
    | .ok s => selectBlobs sidecars slot (blobs.set hash s.blob) wanted

/-- The hashes with their indices, if there is one for each. -/
def withIndices (hashes : List Hash) (indices : List Word) : List (Hash × Option Word) :=
  if indices.length = hashes.length then hashes.zip (indices.map some)
  else hashes.map fun hash => (hash, none)

section
variable {σ : Type}

/-- The clock of the beacon chain, asked for if it is not known yet. -/
def knownTiming (source : BlobSource σ) : Effect (σ × BlobMemo) ResolveError BeaconTiming := do
  match (← get).2.timing? with
  | some timing => return timing
  | none =>
    let timing ← (source.timing.mapError .beaconFetch).onFst
    modify fun (world, memo) => (world, { memo with timing? := some timing })
    return timing

/-- The slot that a time is in. -/
def slotOf (source : BlobSource σ) (time : Word) : Effect (σ × BlobMemo) ResolveError Word := do
  match (← knownTiming source).slotAt time with
  | .error cause => throw (.beaconFetch cause)
  | .ok slot => return slot

/-- The sidecars of a slot, asked for if it is not the last one. -/
def sidecarsOf (source : BlobSource σ) (slot : Word) :
    Effect (σ × BlobMemo) ResolveError (List BlobSidecar) := do
  match (← get).2.slot? with
  | some (known, sidecars) => if known = slot then return sidecars else ask
  | none => ask
where
  /-- Asks for the sidecars. -/
  ask : Effect (σ × BlobMemo) ResolveError (List BlobSidecar) := do
    let sidecars ← ((source.sidecars slot).mapError .beaconFetch).onFst
    modify fun (world, memo) => (world, { memo with slot? := some (slot, sidecars) })
    return sidecars

/-- The blobs of the hashes that a transaction names, in a block of the given time.  If there is an
index for each hash, the blob has to be there; otherwise it may be anywhere in the slot. -/
def fetchBlobs (source : BlobSource σ) (time : Word) (hashes : List Hash) (indices : List Word) :
    Effect (σ × BlobMemo) ResolveError BlobMap := do
  if hashes.isEmpty then return []
  let slot ← slotOf source time
  let sidecars ← sidecarsOf source slot
  match selectBlobs sidecars slot [] (withIndices hashes indices) with
  | .error e => throw e
  | .ok blobs => return blobs

end

end BatchInbox
