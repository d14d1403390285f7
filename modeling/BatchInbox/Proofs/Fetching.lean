import BatchInbox.Proofs.Cache
import BatchInbox.Proofs.Posted

/-!
# Fetching from a shared disk

A file holds the transactions to an inbox that one query has left there, and serves all later
queries for the same L2 chain and block.  Senders are told apart each time a file is read, inboxes
only when it is written: so what is fetched is from the sender of the query, but goes to the inbox of
whoever asked first.

## What is here

* `L1Source.FetchedFor` — the disks that a sequence of queries may leave.
* `InboxQuery.fetch_sound` — what is fetched after any sequence of queries.
* `InboxQuery.fetch_foreign_inbox` — it may go to another inbox.
-/

set_option autoImplicit false
namespace BatchInbox

/-! ## Sequences of queries -/

section
variable {σ : Type} {source : L1Source σ} {q : InboxQuery}

/-- The client gives the block that was asked for. -/
def L1Source.TellsNumbers (source : L1Source σ) : Prop :=
  ∀ n w b w', (source.block n).step w = (.ok b, w') → b.number = n

theorem L1Chain.tellsNumbers_client (l1 : L1Chain) : l1.client.TellsNumbers := by
  intro n w b w' h
  cases h
  rfl

/-- The queries have been used one after the other to fetch blocks, beginning with an empty disk, and
this is the state in the end.  The world may go on in between. -/
inductive L1Source.FetchedFor (source : L1Source σ) : List InboxQuery → σ × Disk → Prop where
  | start (w : σ) : source.FetchedFor [] (w, .empty)
  | fetch {queries : List InboxQuery} {s : σ × Disk} (h : source.FetchedFor queries s)
    (q : InboxQuery) (n : Word) : source.FetchedFor (queries ++ [q]) ((q.fetch source n).step s).2
  | goOn {queries : List InboxQuery} {w : σ} {d : Disk} (h : source.FetchedFor queries (w, d))
    (w' : σ) : source.FetchedFor queries (w', d)

/-- Whatever is on disk are the transactions of that block to the inbox of one of the queries for
that chain. -/
def Disk.KeptFor (queries : List InboxQuery) (d : Disk) : Prop :=
  ∀ chain n txs, d.load? chain n = some txs →
    ∃ q ∈ queries, q.l2ChainId = chain ∧ ∃ b : L1Block, b.number = n ∧ txs = b.inboxTxs q.inbox

/-- **The step.**  What a query fetches are transactions to the inbox of one of the queries up to
now, and so is what is on disk afterwards. -/
theorem Disk.KeptFor.fetch (hnumbers : source.TellsNumbers) {queries : List InboxQuery}
    {s : σ × Disk} (h : s.2.KeptFor queries) (q : InboxQuery) (n : Word) :
    ((q.fetch source n).step s).2.2.KeptFor (queries ++ [q]) ∧
      ∀ txs, ((q.fetch source n).step s).1 = .ok txs →
        ∃ q' ∈ queries ++ [q], q'.l2ChainId = q.l2ChainId ∧ ∃ b : L1Block, b.number = n ∧
          txs = (b.inboxTxs q'.inbox).filter (·.sender = q.sender) := by
  have hself : q ∈ queries ++ [q] := List.mem_append_right queries List.mem_cons_self
  have hkept : s.2.KeptFor (queries ++ [q]) := fun chain m txs hload => by
    obtain ⟨q', hq', hspec⟩ := h chain m txs hload
    exact ⟨q', List.mem_append_left [q] hq', hspec⟩
  have hserves : source.Serves (fun chain n txs => ∃ q' ∈ queries ++ [q], q'.l2ChainId = chain ∧
      ∃ b : L1Block, b.number = n ∧ txs = b.inboxTxs q'.inbox) q.l2ChainId q.inbox :=
    fun m w b w' hblock => ⟨q, hself, rfl, b, hnumbers m w b w' hblock, rfl⟩
  have hfetch := InboxQuery.ensures_fetch hserves n
  refine ⟨hfetch.state hkept, fun txs htxs => ?_⟩
  obtain ⟨stored, ⟨q', hq', hchain, b, hb, rfl⟩, rfl⟩ :=
    (hfetch.of_ok hkept (Prod.ext htxs rfl)).1
  exact ⟨q', hq', hchain, b, hb, rfl⟩

/-- Every sequence of queries keeps to that. -/
theorem L1Source.FetchedFor.keptFor (hnumbers : source.TellsNumbers) {queries : List InboxQuery}
    {s : σ × Disk} (h : source.FetchedFor queries s) : s.2.KeptFor queries := by
  induction h with
  | start w => exact fun _ _ _ hload => absurd hload nofun
  | fetch _ q n ih => exact (ih.fetch hnumbers q n).1
  | goOn _ w' ih => exact ih

/-- A transaction of a block to an inbox. -/
theorem L1Block.of_mem_inboxTxs {b : L1Block} {inbox : Address} {tx : InboxTx}
    (h : tx ∈ b.inboxTxs inbox) : tx.recipient = inbox ∧ tx.block = b.number := by
  obtain ⟨raw, -, -, cursor, rfl⟩ := L1Chain.mem_inboxTxsFrom h
  exact ⟨rfl, rfl⟩

/-- **What is fetched** after any sequence of queries: transactions of the block, from the sender of
the query, and all of them to the inbox of one of the queries for this chain. -/
theorem InboxQuery.fetch_sound (hnumbers : source.TellsNumbers) {queries : List InboxQuery}
    {s s' : σ × Disk} (h : source.FetchedFor queries s) {n : Word} {txs : List InboxTx}
    (hfetch : (q.fetch source n).step s = (.ok txs, s')) :
    ∃ q' ∈ queries ++ [q], q'.l2ChainId = q.l2ChainId ∧
      ∀ tx ∈ txs, tx.recipient = q'.inbox ∧ tx.sender = q.sender ∧ tx.block = n := by
  obtain ⟨q', hq', hchain, b, rfl, rfl⟩ :=
    ((h.keptFor hnumbers).fetch hnumbers q n).2 txs (congrArg Prod.fst hfetch)
  refine ⟨q', hq', hchain, fun tx htx => ?_⟩
  obtain ⟨hmem, hsender⟩ := List.mem_filter.1 htx
  obtain ⟨hrecipient, hblock⟩ := L1Block.of_mem_inboxTxs hmem
  exact ⟨hrecipient, of_decide_eq_true hsender, hblock⟩

end

/-! ### An example

Two queries for one chain that differ in their inboxes only, and one transaction. -/

/-- The query for an inbox that begins with the given byte. -/
def twoInboxesQuery (first : UInt8) : InboxQuery :=
  ⟨901, ⟨first :: List.replicate 19 0, rfl⟩, BytesN.zero 20⟩

/-- A transaction to the inbox that begins with a zero. -/
def twoInboxesTx : L1Tx :=
  ⟨BytesN.zero 32, 0, BytesN.zero 20, some (twoInboxesQuery 0).inbox, 2, [0], []⟩

/-- Every block has this transaction only. -/
def twoInboxesL1 : L1Chain := ⟨9, fun n => n, fun _ => [twoInboxesTx]⟩

theorem twoInboxesL1_tellsNumbers : twoInboxesL1.client.TellsNumbers :=
  twoInboxesL1.tellsNumbers_client

/-- The query of the inbox fetches the transaction, and then so does the query of the other one. -/
theorem fetch_twoInboxes : ∃ s, twoInboxesL1.client.FetchedFor [twoInboxesQuery 0] s ∧
    ((twoInboxesQuery 1).fetch twoInboxesL1.client 9).step s =
      (.ok [(twoInboxesL1.block 9).inboxTx (twoInboxesQuery 0).inbox 0 twoInboxesTx], s) := by
  have htxs : (twoInboxesL1.block 9).inboxTxs (twoInboxesQuery 0).inbox =
      [(twoInboxesL1.block 9).inboxTx (twoInboxesQuery 0).inbox 0 twoInboxesTx] := by
    rw [L1Block.inboxTxs, L1Block.sortedTxs, L1Chain.block, twoInboxesL1,
      List.mergeSort_singleton]
    rfl
  have hfirst : ((twoInboxesQuery 0).fetch twoInboxesL1.client 9).step ((), .empty) =
      (.ok (((twoInboxesL1.block 9).inboxTxs (twoInboxesQuery 0).inbox).filter
          (·.sender = (twoInboxesQuery 0).sender)),
        ((), (Disk.empty.store? 901 9
          ((twoInboxesL1.block 9).inboxTxs (twoInboxesQuery 0).inbox)).getD .empty)) :=
    InboxQuery.fetch_step rfl ()
  have hstored : ((Disk.empty.store? 901 9
      ((twoInboxesL1.block 9).inboxTxs (twoInboxesQuery 0).inbox)).getD .empty).load? 901 9 =
        some ((twoInboxesL1.block 9).inboxTxs (twoInboxesQuery 0).inbox) :=
    Disk.load?_getD_store?_self (fun h => by cases h)
  refine ⟨_, .fetch (.start ()) (twoInboxesQuery 0) 9, ?_⟩
  rw [hfirst]
  refine (InboxQuery.fetch_step_hit hstored ()).trans ?_
  rw [htxs]
  rfl

theorem fetch_sound_twoInboxes : ∃ s q', twoInboxesL1.client.FetchedFor [twoInboxesQuery 0] s ∧
    q' ∈ [twoInboxesQuery 0, twoInboxesQuery 1] ∧
    ((twoInboxesL1.block 9).inboxTx (twoInboxesQuery 0).inbox 0 twoInboxesTx).recipient =
      q'.inbox := by
  obtain ⟨s, h, hfetch⟩ := fetch_twoInboxes
  obtain ⟨q', hq', -, htxs⟩ := InboxQuery.fetch_sound twoInboxesL1_tellsNumbers h hfetch
  exact ⟨s, q', h, hq', (htxs _ (List.mem_singleton_self _)).1⟩

/-- **What is fetched need not go to the inbox of the query**, if the block was kept for another
one. -/
theorem fetch_foreign_inbox :
    ¬ ∀ (source : L1Source Unit) (queries : List InboxQuery) (s s' : Unit × Disk) (q : InboxQuery)
      (n : Word) (txs : List InboxTx), source.TellsNumbers → source.FetchedFor queries s →
      (∀ q' ∈ queries, q'.l2ChainId = q.l2ChainId) →
      (q.fetch source n).step s = (.ok txs, s') →
      ∀ tx ∈ txs, tx.recipient = q.inbox ∧ tx.sender = q.sender ∧ tx.block = n := by
  intro hclaim
  obtain ⟨s, h, hfetch⟩ := fetch_twoInboxes
  have hrecipient := (hclaim _ _ _ _ _ _ _ twoInboxesL1_tellsNumbers h
    (by simp [twoInboxesQuery]) hfetch _ (List.mem_singleton_self _)).1
  exact absurd (congrArg BytesN.toList hrecipient) (by decide)

end BatchInbox
