import BatchInbox.Proofs.Completeness
import BatchInbox.Proofs.Fetching

/-!
# Requests fail outside

A request has three ways to find itself in the wrong: transactions come out of order, a transaction
comes with too few blobs, and a blob that was looked up is not returned.  It never does.  A block that
is read has transactions that say they are of that block, whether they come from the client or from a
file that some request has left; and a look-up that ends has a blob for every hash, even if some hash
is named twice.

So a request fails only when a node fails, when the caller gives up, or when the request itself is to
blame.  The program may stop without an answer, but only if channels are decompressed under the largest
limit.

## What is here

* `L1Source.serves_of_tellsNumbers` — transactions say of which block they are.
* `ensures_resolve` — what a request ensures, given what the nodes and the disk are known to give.
* `Disk.Used` — the disks that requests leave behind; `Disk.Used.stores`.
* `outside_of_resolve` — a request that fails has failed outside.
-/

set_option autoImplicit false
namespace BatchInbox
open Effect (Ensures)

/-- All transactions say that they are of the block, whatever the chain. -/
def InboxTx.AreOf (_chain n : Word) (txs : List InboxTx) : Prop :=
  ∀ tx ∈ txs, tx.block = n

section
variable {σ : Type} {u : Endpoints σ} {c : Rollup}

/-! ## Nodes -/

/-- The transactions that a client gives say of which block they are, if blocks do. -/
theorem L1Source.serves_of_tellsNumbers {source : L1Source σ} (h : source.TellsNumbers)
    (chain : Word) (inbox : Address) : source.Serves InboxTx.AreOf chain inbox := by
  intro n w b w' hblock tx htx
  exact (L1Block.of_mem_inboxTxs htx).2.trans (h n w b w' hblock)

/-- Nothing is asked of the beacon node. -/
theorem Endpoints.serves_of_tellsNumbers (h : u.l1.TellsNumbers) (q : InboxQuery) :
    u.Serves q InboxTx.AreOf (fun _ => True) fun _ _ => True where
  l1 := L1Source.serves_of_tellsNumbers h q.l2ChainId q.inbox
  beacon := {
    timing := .of_forall fun _ _ _ _ => trivial
    sidecars := fun _ => .of_forall fun _ _ _ _ => trivial }

/-! ## Requests -/

/-- Why a request may fail: for something outside, or as the program stops at the largest limit. -/
def ResolveSettings.MayFail (settings : ResolveSettings) (e : ResolveError) : Prop :=
  e.IsOutside ∨ e = .overflow ∧ settings.maxChannelSize = Word.max

/-- **A request** leaves what the nodes give, and if the transactions of a block say that they are of
that block, it finds no fault with itself. -/
theorem ensures_resolve {K : Word → Word → List InboxTx → Prop} {T : BeaconTiming → Prop}
    {S : Word → List BlobSidecar → Prop} (hu : u.Serves c.query K T S)
    (hK : ∀ n txs, K c.l2ChainId n txs → ∀ tx ∈ txs, tx.block = n) (settings : ResolveSettings)
    (start last : Word) :
    (resolve u settings c start last).Ensures (Session.Knows K T S) (fun _ => True)
      settings.MayFail := by
  rw [resolve]
  split
  · exact .throw (.inl ⟨fun _ h => (by cases h), fun h => (by cases h)⟩)
  · rename_i times _
    have hwindow : (findWindow u settings c times).Ensures (Session.Knows K T S) (fun _ => True)
        settings.MayFail :=
      (outside_findWindow settings c times fun _ _ hs => ⟨hs.disk, hs.blobs⟩).mono (fun _ => id)
        fun _ => .inl
    refine hwindow.bind fun window _ => ?_
    obtain ⟨first, final⟩ := window
    have hscan : (scan u c settings.concurrency first final).Ensures (Session.Knows K T S)
        (fun _ => True) settings.MayFail :=
      (ensures_scan hu settings.concurrency (.inr hK) first final).mono (fun _ _ => trivial)
        fun e he => .inl (he.resolve_left id)
    refine hscan.bind fun read _ => ?_
    obtain ⟨closed, dropped⟩ := read
    simp only
    split
    · rename_i hassemble
      rcases assemble_eq_error hassemble with hstops | ⟨missing, rfl⟩
      · exact .throw (.inr hstops)
      · exact .throw (.inl ⟨fun _ h => (by cases h), fun h => (by cases h)⟩)
    · exact .pure trivial

end

/-! ## Disks -/

/-- The disks that requests leave behind: requests for any chains and with any settings, to clients
that give the blocks that they are asked for.  In the beginning no file is readable.  Apart from
whole requests, blocks may have been fetched by some that were given up in between. -/
inductive Disk.Used : Disk → Prop where
  | start {d : Disk} (h : ∀ chain n, d.load? chain n = none) : d.Used
  | fetch {d : Disk} (h : d.Used) {τ : Type} {source : L1Source τ} (ht : source.TellsNumbers)
    (q : InboxQuery) (n : Word) (w : τ) : ((q.fetch source n).step (w, d)).2.2.Used
  | resolve {d : Disk} (h : d.Used) {τ : Type} {v : Endpoints τ} (ht : v.l1.TellsNumbers)
    (settings : ResolveSettings) (c : Rollup) (start last : Word) (w : τ) (memo : BlobMemo) :
    ((resolve v settings c start last).step ⟨w, d, memo⟩).2.disk.Used

/-- **Requests leave files that say of which block they are.** -/
theorem Disk.Used.stores {d : Disk} (h : d.Used) : d.Stores InboxTx.AreOf := by
  induction h with
  | start h => exact fun chain n txs hload => absurd ((h chain n).symm.trans hload) nofun
  | fetch _ ht q n w ih =>
    have hserves := L1Source.serves_of_tellsNumbers ht q.l2ChainId q.inbox
    exact (InboxQuery.ensures_fetch hserves n).state ih
  | resolve _ ht settings c start last w memo ih =>
    have hresolve := ensures_resolve (c := c) (Endpoints.serves_of_tellsNumbers ht c.query)
      (fun _ _ => id) settings start last
    exact (hresolve.state (s := ⟨w, _, memo⟩) ⟨ih, fun _ => trivial, fun _ => trivial⟩).disk

/-- **A request that fails has failed outside**, whatever requests have left the files, and whatever
is remembered of blobs; unless the program stops at the largest limit. -/
theorem outside_of_resolve {σ : Type} {u : Endpoints σ} (hnumbers : u.l1.TellsNumbers) {d : Disk}
    (hd : d.Used) (settings : ResolveSettings) (c : Rollup) (start last : Word) (w : σ)
    (memo : BlobMemo) {e : ResolveError}
    (h : ((resolve u settings c start last).step ⟨w, d, memo⟩).1 = .error e) :
    settings.MayFail e := by
  have hresolve := ensures_resolve (Endpoints.serves_of_tellsNumbers hnumbers c.query)
    (fun _ _ => id) settings start last
  exact hresolve.of_error (s := ⟨w, d, memo⟩) ⟨hd.stores, fun _ => trivial, fun _ => trivial⟩
    (Prod.ext h rfl)

end BatchInbox
