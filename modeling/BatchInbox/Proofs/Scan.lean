import BatchInbox.Proofs.Beacon
import BatchInbox.Proofs.Lookahead
import BatchInbox.Proofs.Reading
import BatchInbox.Proofs.Window

/-!
# A scan is a run of the intake

A scan goes back and forth between the nodes, the disk and the intake, and may end at any point.  If
it does not, all of this leaves no trace but what the intake has read: the blocks of the window in
their order, each with transactions that were fetched for it, and one blob for each of their hashes.

The intake refuses nothing, provided that the transactions of each block say that they are of that
block.  So a scan that fails has failed outside.

## What is here

* `Endpoints.Serves`, `Session.Knows` — what nodes give, and what is known of it.
* `Intake.Block.IsServed` — a block as it is fetched, with blobs that are looked up.
* `ensures_takeTxs`, `ensures_takeBlock`, `ensures_scanFrom`, `ensures_scan` — what the parts of a
  scan come to.
* `L1Chain.Supplies`, `scan_spec` — the same for nodes that tell the truth.
-/

set_option autoImplicit false
namespace BatchInbox
open Effect (Ensures)

/-- The query for the batches of a chain. -/
def Rollup.query (c : Rollup) : InboxQuery := ⟨c.l2ChainId, c.inbox, c.batcher⟩

/-! ## Pushes -/

namespace Intake
variable {s s' : Intake} {tx : InboxTx} {blobs : List Blob}

/-- A transaction is not refused if it does not lie behind, and has its blobs. -/
theorem push_ne_error (horder : ∀ current, s.block? = some current → current ≤ tx.block)
    (hblobs : (⟨tx, blobs⟩ : Post).HasBlobs) (e : Error) : s.push tx blobs ≠ (.error e, s') := by
  intro h
  rw [push] at h
  rcases hadvance : s.advance tx.block with ⟨e' | ⟨⟩, s₁⟩ <;> rw [hadvance] at h
  · obtain ⟨-, current, hcurrent, hlt⟩ := lt_of_advance hadvance
    exact UInt64.not_lt.2 (horder current hcurrent) hlt
  · simp only at h
    split at h
    · rename_i hcount
      exact hcount.2 (hblobs hcount.1)
    · cases h

end Intake

section
variable {σ ε α : Type} {u : Endpoints σ} {q : InboxQuery}
  {K : Word → Word → List InboxTx → Prop} {T : BeaconTiming → Prop}
  {S : Word → List BlobSidecar → Prop}

/-! ## Steps -/

/-- A step that succeeds was not given up. -/
theorem step_unlessCancelled {e : Effect (Session σ) ResolveError α} {a : α} {s s' : Session σ}
    (h : (u.unlessCancelled e).step s = (.ok a, s')) : e.step s = (.ok a, s') := by
  obtain ⟨s₀, s₁, hget, h⟩ := Effect.step_bind_eq_ok.1 h
  cases hget
  split at h
  · exact absurd h nofun
  · exact h

/-- What the nodes give: transactions to the inbox of `K`, clocks of `T` and sidecars of `S`. -/
structure Endpoints.Serves (u : Endpoints σ) (q : InboxQuery)
    (K : Word → Word → List InboxTx → Prop) (T : BeaconTiming → Prop)
    (S : Word → List BlobSidecar → Prop) : Prop where
  l1 : u.l1.Serves K q.l2ChainId q.inbox
  beacon : u.beacon.Gives T S

/-- What is on disk and what is remembered of blobs is of that kind. -/
structure Session.Knows (K : Word → Word → List InboxTx → Prop) (T : BeaconTiming → Prop)
    (S : Word → List BlobSidecar → Prop) (s : Session σ) : Prop where
  disk : s.disk.Stores K
  blobs : s.blobs.Knows T S

theorem ensures_unlessCancelled {J : Session σ → Prop} {P : α → Prop} {E : ResolveError → Prop}
    {e : Effect (Session σ) ResolveError α} (h : e.Ensures J P E)
    (hcancelled : ∀ w, u.isCancelled w = true → E .cancelled) :
    (u.unlessCancelled e).Ensures J P E := by
  refine Ensures.get.bind fun s _ => ?_
  split
  · rename_i hcancel
    exact .throw (hcancelled s.world hcancel)
  · exact h

section
variable {P : α → Prop} {E : ε → Prop}

theorem ensures_onWorld {J : Session σ → Prop} (hJ : ∀ s world, J s → J { s with world })
    {e : Effect σ ε α} (h : e.Ensures (fun _ => True) P E) : (onWorld e).Ensures J P E :=
  h.zoom (fun _ _ => trivial) fun _ _ hs _ => hJ _ _ hs

theorem ensures_onDisk {e : Effect (σ × Disk) ε α} (h : e.Ensures (fun s => s.2.Stores K) P E) :
    (onDisk e).Ensures (Session.Knows K T S) P E :=
  h.zoom (fun _ hs => hs.disk) fun _ _ hs hdisk => ⟨hdisk, hs.blobs⟩

theorem ensures_onBlobs {e : Effect (σ × BlobMemo) ε α}
    (h : e.Ensures (fun s => s.2.Knows T S) P E) :
    (onBlobs e).Ensures (Session.Knows K T S) P E :=
  h.zoom (fun _ hs => hs.blobs) fun _ _ hs hblobs => ⟨hs.disk, hblobs⟩

end

/-- A step of the intake gives what it gives, and is an internal error if it is refused. -/
theorem ensures_ofIntake {J : Session σ → Prop} {E : ResolveError → Prop}
    {step : Except Intake.Error α × Intake}
    (hrefused : ∀ e s, step = (.error e, s) → E (.internal e.message)) :
    (ofIntake step).Ensures J (fun r => step = (.ok r.1, r.2)) E := by
  rcases step with ⟨e | a, s⟩
  · exact .throw (hrefused e s rfl)
  · exact .pure rfl

/-! ## Transactions -/

/-- The transaction is pushed with a blob for each of its hashes. -/
def Intake.Post.IsServed (T : BeaconTiming → Prop) (S : Word → List BlobSidecar → Prop)
    (p : Intake.Post) : Prop :=
  List.Forall₂ (BlobAt T S p.tx.time) p.tx.blobHashes p.blobs

theorem Intake.Post.IsServed.hasBlobs {p : Intake.Post} (h : p.IsServed T S) : p.HasBlobs :=
  fun _ => h.length_eq.symm

variable {excused : Prop}

/-- Taking transactions is pushing them, each with its blobs.  Unless errors are excused, they have
to be of the block that has been reached; then none of them is refused. -/
theorem ensures_takeTxs (hgives : u.beacon.Gives T S) {n : Word} {txs : List InboxTx}
    {intake : Intake} (closed : List ClosedChannel)
    (horder : excused ∨ intake.block? = some n ∧ ∀ tx ∈ txs, tx.block = n) :
    (takeTxs u intake closed txs).Ensures (Session.Knows K T S)
      (fun r => (excused ∨ r.1.block? = some n) ∧
        ∃ (posts : List Intake.Post) (given : List (List ClosedChannel)),
          posts.map (·.tx) = txs ∧ (∀ p ∈ posts, p.IsServed T S) ∧
          intake.pushAll posts = (given.map .ok, r.1) ∧ r.2 = closed ++ given.flatten)
      fun e => excused ∨ e.IsOutside := by
  induction txs generalizing intake closed with
  | nil => exact .pure ⟨horder.imp_right And.left, [], [], rfl, nofun, rfl, by simp⟩
  | cons tx txs ih =>
    have hblobsFor : (onBlobs (blobsFor u.beacon tx)).Ensures (Session.Knows K T S)
        (List.Forall₂ (BlobAt T S tx.time) tx.blobHashes) fun e => excused ∨ e.IsOutside :=
      (ensures_onBlobs (ensures_blobsFor hgives tx)).mono (fun _ => id) fun _ => .inr
    refine (ensures_unlessCancelled hblobsFor fun _ _ => .inr ⟨nofun, nofun⟩).bind
      fun blobs hblobs => ?_
    have hserved : (⟨tx, blobs⟩ : Intake.Post).IsServed T S := hblobs
    refine (ensures_ofIntake fun e s hrefused => ?_).bind fun ⟨done, intake₁⟩ hpush => ?_
    · refine .inl (horder.resolve_right fun ⟨hreached, htxs⟩ => ?_)
      refine Intake.push_ne_error (fun current hcurrent => ?_) hserved.hasBlobs e hrefused
      rw [hreached] at hcurrent
      rw [htxs tx List.mem_cons_self, Option.some.inj hcurrent]
      exact UInt64.le_refl _
    · have horder' : excused ∨ intake₁.block? = some n ∧ ∀ tx ∈ txs, tx.block = n := by
        refine horder.imp_right fun ⟨_, htxs⟩ => ?_
        rw [List.forall_mem_cons] at htxs
        exact ⟨(Intake.block?_of_push hpush).trans (congrArg some htxs.1), htxs.2⟩
      refine (ih (closed ++ done) horder').mono ?_ fun _ => id
      rintro ⟨intake', closed'⟩ ⟨hreached, posts, given, htxs, hposts, hrun, rfl⟩
      refine ⟨hreached, ⟨tx, blobs⟩ :: posts, done :: given, ?_, ?_, ?_, ?_⟩
      · rw [List.map_cons, htxs]
      · rw [List.forall_mem_cons]
        exact ⟨hserved, hposts⟩
      · rw [Intake.pushAll, hpush]
        simp only
        rw [hrun]
        rfl
      · rw [List.flatten_cons, List.append_assoc]

/-! ## Blocks -/

/-- The block has transactions that were fetched for it, each with its blobs. -/
structure Intake.Block.IsServed (q : InboxQuery) (K : Word → Word → List InboxTx → Prop)
    (T : BeaconTiming → Prop) (S : Word → List BlobSidecar → Prop) (b : Intake.Block) : Prop where
  txs : q.Wants K b.number (b.posts.map (·.tx))
  blobs : ∀ p ∈ b.posts, p.IsServed T S

/-- Reading a block is going on to it and pushing its transactions. -/
theorem ensures_takeBlock (hgives : u.beacon.Gives T S) {number : Word} {txs : List InboxTx}
    {intake : Intake} (closed : List ClosedChannel)
    (horder : excused ∨ ∀ current, intake.block? = some current → current ≤ number)
    (htxs : excused ∨ ∀ tx ∈ txs, tx.block = number) :
    (takeBlock u intake closed number txs).Ensures (Session.Knows K T S)
      (fun r => (excused ∨ r.1.block? = some number) ∧
        ∃ (reached : Intake) (posts : List Intake.Post) (given : List (List ClosedChannel)),
          intake.advance number = (.ok (), reached) ∧
          posts.map (·.tx) = txs ∧ (∀ p ∈ posts, p.IsServed T S) ∧
          reached.pushAll posts = (given.map .ok, r.1) ∧ r.2 = closed ++ given.flatten)
      fun e => excused ∨ e.IsOutside := by
  have hadvances : (ofIntake (intake.advance number) : Effect (Session σ) _ _).Ensures
      (Session.Knows K T S) (fun r => intake.advance number = (.ok r.1, r.2))
      fun e => excused ∨ e.IsOutside := by
    refine ensures_ofIntake fun e s hrefused => .inl (horder.resolve_right fun horder => ?_)
    obtain ⟨-, current, hcurrent, hlt⟩ := Intake.lt_of_advance hrefused
    exact UInt64.not_lt.2 (horder current hcurrent) hlt
  refine (ensures_unlessCancelled hadvances fun _ _ => .inr ⟨nofun, nofun⟩).bind ?_
  rintro ⟨⟨⟩, reached⟩ hadvance
  have hreached : excused ∨ reached.block? = some number ∧ ∀ tx ∈ txs, tx.block = number :=
    htxs.imp_right fun htxs => ⟨Intake.block?_of_advance hadvance, htxs⟩
  refine (ensures_takeTxs hgives closed hreached).mono ?_ fun _ => id
  rintro ⟨intake', closed'⟩ ⟨hblock, posts, given, hposts⟩
  exact ⟨hblock, reached, posts, given, hadvance, hposts⟩

/-- Reading the blocks to come is a run of the intake over them. -/
theorem ensures_scanFrom (hu : u.Serves q K T S) (concurrency : Nat)
    (hK : excused ∨ ∀ n txs, K q.l2ChainId n txs → ∀ tx ∈ txs, tx.block = n) {rounds : Nat}
    {numbers : List Word} {ahead : Lookahead} {intake : Intake} (closed : List ClosedChannel)
    (hold : ahead.Holds q K numbers) (hrounds : numbers.length < rounds)
    (hsorted : numbers.Pairwise (· < ·))
    (horder : excused ∨ ∀ current, intake.block? = some current → ∀ n ∈ numbers, current ≤ n) :
    (scanFrom u q concurrency rounds ahead intake closed).Ensures (Session.Knows K T S)
      (fun r => ∃ (blocks : List Intake.Block) (given : List ClosedChannel),
        blocks.map (·.number) = numbers ∧ (∀ b ∈ blocks, b.IsServed q K T S) ∧
        intake.Reads blocks given r.1 ∧ r.2 = closed ++ given)
      fun e => excused ∨ e.IsOutside := by
  induction rounds generalizing numbers ahead intake closed with
  | zero => exact absurd hrounds (Nat.not_lt_zero _)
  | succ rounds ih =>
    have hnext := ensures_onDisk (T := T) (S := S) (ensures_next (E := fun e => excused ∨ e.IsOutside)
      hu.l1 concurrency hold)
    refine (ensures_unlessCancelled hnext fun _ _ => .inr ⟨nofun, nofun⟩).bind fun next? hnext? => ?_
    cases hnext? with
    | done => exact .pure ⟨[], [], rfl, nofun, .nil _, (List.append_nil _).symm⟩
    | @block n rest fetched ahead' hfetched hold' =>
      rcases fetched with cause | ⟨number, txs⟩
      · exact .throw (.inr ⟨nofun, nofun⟩)
      · obtain ⟨rfl, hwants⟩ := hfetched _ rfl
        obtain ⟨hlater, hsorted'⟩ := List.pairwise_cons.1 hsorted
        have htxs : excused ∨ ∀ tx ∈ txs, tx.block = number := by
          refine hK.imp_right fun hK tx htx => ?_
          obtain ⟨stored, hstored, rfl⟩ := hwants
          exact hK number stored hstored tx (List.mem_filter.1 htx).1
        refine (ensures_takeBlock hu.beacon closed (horder.imp_right fun horder current hcurrent =>
          horder current hcurrent _ List.mem_cons_self) htxs).bind ?_
        rintro ⟨intake₂, closed₂⟩ ⟨hreached, intake₁, posts, given, hadvance, rfl, hposts, hrun, rfl⟩
        refine (ih (closed ++ given.flatten) hold' (Nat.lt_of_succ_lt_succ hrounds) hsorted'
          (hreached.imp_right fun hreached current hcurrent m hm => ?_)).mono ?_ fun _ => id
        · rw [hreached] at hcurrent
          cases hcurrent
          exact UInt64.le_of_lt (hlater m hm)
        · rintro ⟨intake', closed'⟩ ⟨blocks, given', rfl, hserved, hreads, rfl⟩
          refine ⟨⟨number, posts⟩ :: blocks, given.flatten ++ given', rfl, ?_,
            .cons hadvance hrun hreads, List.append_assoc ..⟩
          rw [List.forall_mem_cons]
          exact ⟨⟨hwants, hposts⟩, hserved⟩

/-- The blocks from one to another, each of them once and in ascending order. -/
theorem InboxQuery.pairwise_blocksBetween (first last : Word) :
    (blocksBetween first last).Pairwise (· < ·) := by
  rw [blocksBetween]
  split
  · exact List.Pairwise.nil
  · rename_i hle
    have hlast := last.toNat_lt
    rw [UInt64.not_lt, UInt64.le_iff_toNat_le] at hle
    rw [List.pairwise_map, List.pairwise_iff_getElem]
    intro i j hi hj hij
    rw [List.length_range] at hi hj
    have hadd : ∀ k, k < last.toNat - first.toNat + 1 →
        (first + k.toUInt64).toNat = first.toNat + k := by
      intro k hk
      rw [UInt64.toNat_add, Nat.toUInt64_eq, UInt64.toNat_ofNat']
      omega
    rw [List.getElem_range, List.getElem_range, UInt64.lt_iff_toNat_lt, hadd i hi, hadd j hj]
    omega

theorem InboxQuery.nodup_blocksBetween (first last : Word) : (blocksBetween first last).Nodup :=
  (pairwise_blocksBetween first last).imp UInt64.ne_of_lt

theorem InboxQuery.mem_blocksBetween {first last n : Word} :
    n ∈ blocksBetween first last ↔ first ≤ n ∧ n ≤ last := by
  rw [blocksBetween]
  split
  · rename_i hlt
    refine iff_of_false List.not_mem_nil fun hn => ?_
    exact UInt64.not_lt.2 (UInt64.le_trans hn.1 hn.2) hlt
  · rename_i hle
    have hlast := last.toNat_lt
    rw [UInt64.not_lt, UInt64.le_iff_toNat_le] at hle
    rw [List.mem_map, UInt64.le_iff_toNat_le, UInt64.le_iff_toNat_le]
    constructor
    · rintro ⟨k, hk, rfl⟩
      rw [List.mem_range] at hk
      rw [UInt64.toNat_add, Nat.toUInt64_eq, UInt64.toNat_ofNat']
      omega
    · rintro ⟨hfirst, hn⟩
      refine ⟨n.toNat - first.toNat, List.mem_range.2 (by omega), ?_⟩
      rw [← UInt64.toNat_inj, UInt64.toNat_add, Nat.toUInt64_eq, UInt64.toNat_ofNat']
      omega

/-- Blocks that are numbered from one to another lie between these. -/
theorem InboxQuery.number_mem_of_map_eq {first last : Word} {blocks : List Intake.Block}
    (h : blocks.map (·.number) = blocksBetween first last) {b : Intake.Block} (hb : b ∈ blocks) :
    first ≤ b.number ∧ b.number ≤ last :=
  mem_blocksBetween.1 (h ▸ List.mem_map_of_mem hb)

/-- **A scan that ends is a run of the intake** over the blocks of the window, with transactions that
were fetched for them and blobs that were looked up.  If the transactions of a block say that they are
of that block, a scan that fails has failed outside. -/
theorem ensures_scan {c : Rollup} (hu : u.Serves c.query K T S) (concurrency : Nat)
    (hK : excused ∨ ∀ n txs, K c.l2ChainId n txs → ∀ tx ∈ txs, tx.block = n) (first last : Word) :
    (scan u c concurrency first last).Ensures (Session.Knows K T S)
      (fun r => ∃ (blocks : List Intake.Block) (intake : Intake),
        blocks.map (·.number) = InboxQuery.blocksBetween first last ∧
        (∀ b ∈ blocks, b.IsServed c.query K T S) ∧
        (Intake.new c.channelTimeout).Reads blocks r.1 intake ∧ r.2 = intake.close last)
      fun e => excused ∨ e.IsOutside := by
  have hold : (⟨InboxQuery.blocksBetween first last, []⟩ : Lookahead).Holds c.query K
      (InboxQuery.blocksBetween first last) := ⟨[], rfl, .nil⟩
  have hnew : ∀ current, (Intake.new c.channelTimeout).block? = some current →
      ∀ n ∈ InboxQuery.blocksBetween first last, current ≤ n := by
    intro current hcurrent
    cases hcurrent
  refine (ensures_scanFrom hu concurrency hK [] hold (Nat.lt_succ_self _)
    (InboxQuery.pairwise_blocksBetween first last) (.inr hnew)).bind ?_
  rintro ⟨intake, closed⟩ ⟨blocks, given, hnumbers, hserved, hreads, rfl⟩
  exact .pure ⟨blocks, intake, hnumbers, hserved, hreads, rfl⟩

end

/-! ## Nodes that tell the truth -/

section
variable {σ : Type} {l1 : L1Chain} {beacon : BeaconChain} {u : Endpoints σ} {q : InboxQuery}

/-- The transactions of a block that a query wants. -/
def L1Chain.wanted (l1 : L1Chain) (q : InboxQuery) (n : Word) : List InboxTx :=
  ((l1.block n).inboxTxs q.inbox).filter (·.sender = q.sender)

/-- The block has the wanted transactions of L1, with blobs that the beacon chain keeps for them. -/
def L1Chain.Supplies (l1 : L1Chain) (beacon : BeaconChain) (q : InboxQuery) (b : Intake.Block) :
    Prop :=
  b.posts.map (·.tx) = l1.wanted q b.number ∧
    ∀ p ∈ b.posts, ∀ blob ∈ p.blobs, beacon.Keeps p.tx.time p.tx.blobHashes blob

/-- The transactions to the inbox of a final block are those of L1. -/
def L1Chain.Has (l1 : L1Chain) (q : InboxQuery) (chain n : Word) (txs : List InboxTx) : Prop :=
  chain = q.l2ChainId → n ≤ l1.head → txs = (l1.block n).inboxTxs q.inbox

theorem L1Chain.serves_of_toldBy (ht : l1.ToldBy u.l1) (hb : beacon.ToldBy u.beacon)
    (q : InboxQuery) :
    u.Serves q (l1.Has q) (· = beacon.timing) fun slot found => found = beacon.sidecars slot where
  l1 n w b w' hblock _ hn := by rw [ht.block hn hblock]
  beacon := hb.gives

theorem L1Chain.supplies_of_isServed {b : Intake.Block} (hn : b.number ≤ l1.head)
    (h : b.IsServed q (l1.Has q) (· = beacon.timing)
      fun slot found => found = beacon.sidecars slot) : l1.Supplies beacon q b := by
  obtain ⟨stored, hstored, htxs⟩ := h.txs
  rw [hstored rfl hn] at htxs
  exact ⟨htxs, fun p hp => BeaconChain.keeps_of_blobAt (h.blobs p hp)⟩

/-- **A scan that ends has read L1**: it is a run of the intake over the blocks of the window, with
what L1 and the beacon chain have for them. -/
theorem scan_spec (ht : l1.ToldBy u.l1) (hb : beacon.ToldBy u.beacon) {c : Rollup}
    {concurrency : Nat} {first last : Word} (hlast : last ≤ l1.head) {w : σ} {s' : Session σ}
    {closed : List ClosedChannel} {dropped : List DroppedChannel}
    (h : (scan u c concurrency first last).step ⟨w, .empty, .empty⟩ =
      (.ok (closed, dropped), s')) :
    ∃ (blocks : List Intake.Block) (intake : Intake),
      blocks.map (·.number) = InboxQuery.blocksBetween first last ∧
      (∀ b ∈ blocks, l1.Supplies beacon c.query b) ∧
      (Intake.new c.channelTimeout).Reads blocks closed intake := by
  have hserves := L1Chain.serves_of_toldBy ht hb c.query
  obtain ⟨⟨blocks, intake, hnumbers, hserved, hreads, -⟩, -⟩ :=
    (ensures_scan hserves concurrency (.inl trivial) first last).of_ok
      ⟨Disk.stores_empty, BlobMemo.knows_empty⟩ h
  refine ⟨blocks, intake, hnumbers, fun b hb => ?_, hreads⟩
  have hmem := InboxQuery.number_mem_of_map_eq hnumbers hb
  exact L1Chain.supplies_of_isServed (UInt64.le_trans hmem.2 hlast) (hserved b hb)

end

end BatchInbox
