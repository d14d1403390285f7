import BatchInbox.Beacon.Client
import BatchInbox.L1.Client
import BatchInbox.Resolve
import BatchInbox.Rollup.Loader

/-!
# Resolving against nodes

Ranges are resolved against an execution client and a beacon node that are named by their URLs.
Every request has clients of its own, which number their calls from the start.
-/

set_option autoImplicit false
namespace BatchInbox

section
variable {σ α : Type}

/-- The attempts that are made for a call unless the caller says otherwise. -/
def defaultAttempts : Nat := 5

/-- The nodes at two URLs.  The second part of the state is the number of the next call. -/
def Endpoints.remote (transport : Transport σ) (isCancelled : σ → Bool) (maxAttempts : Nat)
    (l1 beacon : String) : Endpoints (σ × Word) where
  l1 := JsonRpc.Client.l1Source ⟨l1, maxAttempts⟩ transport
  beacon :=
    let source := Beacon.Client.blobSource ⟨beacon, maxAttempts⟩ transport
    { timing := source.timing.onFst, sidecars := fun slot => (source.sidecars slot).onFst }
  isCancelled s := isCancelled s.1

/-- A computation that starts without knowledge of blobs, and leaves none. -/
def Session.fresh (e : Effect (Session σ) ResolveError α) : Effect (σ × Disk) ResolveError α :=
  e.zoom (fun s => ⟨s.1, s.2, .empty⟩) fun s _ => (s.world, s.disk)

/-- A computation that starts with a new client, and ends with it. -/
def Session.withClient (e : Effect (Session (σ × Word)) ResolveError α) :
    Effect (σ × Disk) ResolveError α :=
  (Session.fresh e).zoom (fun s => ((s.1, JsonRpc.firstId), s.2)) fun s _ => (s.1.1, s.2)

/-- Resolves the L2 blocks from `start` to `last` against the nodes at two URLs. -/
def resolveRemote (transport : Transport σ) (isCancelled : σ → Bool) (maxAttempts : Nat)
    (settings : ResolveSettings) (l1 beacon : String) (c : Rollup) (start last : Word) :
    Effect (σ × Disk) ResolveError Resolution :=
  Session.withClient
    (resolve (.remote transport isCancelled maxAttempts l1 beacon) settings c start last)

/-- The ranges of a result, in pieces if the caller wants them no longer than a given length. -/
def Resolution.pieces (r : Resolution) (maxLength? : Option Word) : List BlockRange :=
  match maxLength? with
  | none => r.ranges
  | some maxLength => BlockRange.splitAll r.ranges maxLength

end

end BatchInbox
