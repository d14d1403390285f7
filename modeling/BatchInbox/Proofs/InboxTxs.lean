import BatchInbox.L1.Block
import Mathlib.Algebra.GroupWithZero.Nat
import Mathlib.Algebra.Order.BigOperators.Group.List
import Mathlib.Algebra.Order.Group.Nat
import Mathlib.Data.List.Forall2

/-!
# The transactions to an inbox

A transaction names its blobs by their hashes, but the sidecars of a block are found by the places
of the blobs in it.  These are counted on the way through the block: over all transactions by
ascending index, whoever they go to, although only those to the inbox are kept.

## What is here

* `L1Block.pairwise_sortedTxs` — distinct indices ascend strictly.
* `L1Block.blobsBelow` — the blobs in front of a transaction; it is what the count has come to
  (`L1Block.inboxTxsFrom_eq`).
* `L1Block.sublist_blobIndices` — the numbers that are given out are among those counted.
* `L1Block.Records` — the record of a transaction.
* `L1Block.inboxTxs_records` — one record for each transaction to the inbox, in whatever order the
  block lists them.
-/

set_option autoImplicit false
namespace BatchInbox
namespace L1Block
variable {b : L1Block} {inbox : Address}

/-! ## Sorting -/

/-- The transactions are in the order of their indices. -/
abbrev Ascends (txs : List L1Tx) : Prop := txs.Pairwise fun s t => s.index < t.index

/-- Distinct indices ascend strictly. -/
theorem pairwise_sortedTxs (h : (b.txs.map (·.index)).Nodup) : Ascends b.sortedTxs := by
  have hle : b.sortedTxs.Pairwise fun s t => s.index ≤ t.index := by
    refine (List.pairwise_mergeSort (fun r s t hrs hst => ?_) (fun s t => ?_) _).imp ?_
    · simp only [decide_eq_true_eq] at hrs hst ⊢
      exact UInt64.le_trans hrs hst
    · simp only [Bool.or_eq_true, decide_eq_true_eq]
      exact UInt64.le_total _ _
    · exact fun hst => of_decide_eq_true hst
  have hne : b.sortedTxs.Pairwise fun s t => s.index ≠ t.index :=
    List.pairwise_map.1 (((List.mergeSort_perm b.txs _).map _).nodup_iff.2 h)
  exact (hle.and hne).imp fun hst => UInt64.lt_of_le_of_ne hst.1 hst.2

/-- So the order in which a block lists them does not matter. -/
theorem sortedTxs_eq_of_perm {b' : L1Block} (h : (b.txs.map (·.index)).Nodup)
    (hperm : b'.txs.Perm b.txs) : b'.sortedTxs = b.sortedTxs := by
  have h' : (b'.txs.map (·.index)).Nodup := (hperm.map _).nodup_iff.2 h
  have hsorted : b'.sortedTxs.Perm b.sortedTxs :=
    (List.mergeSort_perm b'.txs _).trans (hperm.trans (List.mergeSort_perm b.txs _).symm)
  refine hsorted.eq_of_pairwise (fun s t _ _ hst hts => ?_) (pairwise_sortedTxs h')
    (pairwise_sortedTxs h)
  exact absurd (UInt64.lt_trans hst hts) (UInt64.lt_irrefl _)

/-! ## Counting -/

/-- The number of blobs of some transactions. -/
def blobCount (txs : List L1Tx) : Nat := (txs.map (·.blobHashes.length)).sum

@[simp] theorem blobCount_nil : blobCount [] = 0 := rfl

@[simp] theorem blobCount_cons (tx : L1Tx) (txs : List L1Tx) :
    blobCount (tx :: txs) = tx.blobHashes.length + blobCount txs := rfl

theorem blobCount_of_perm {txs txs' : List L1Tx} (h : txs.Perm txs') :
    blobCount txs = blobCount txs' := (h.map _).sum_nat

/-- The number of blobs of those with a smaller index. -/
def blobsBelow (txs : List L1Tx) (index : Word) : Nat := blobCount (txs.filter (·.index < index))

/-- With the blobs of the transaction itself, these are not more than there are. -/
theorem blobsBelow_add_le {txs : List L1Tx} {tx : L1Tx} (h : tx ∈ txs) :
    blobsBelow txs tx.index + tx.blobHashes.length ≤ blobCount txs := by
  have hsplit := blobCount_of_perm (List.filter_append_perm (fun t => t.index < tx.index) txs)
  rw [blobCount, List.map_append, List.sum_append] at hsplit
  have hrest : tx ∈ txs.filter fun t => !decide (t.index < tx.index) := by
    simpa using h
  have hle : tx.blobHashes.length ≤
      blobCount (txs.filter fun t => !decide (t.index < tx.index)) :=
    List.le_sum_of_mem (List.mem_map_of_mem hrest)
  rw [← hsplit]
  exact Nat.add_le_add_left hle _

/-- **The count.**  On the way through ascending transactions, it comes to the number of blobs
below. -/
theorem inboxTxsFrom_eq {txs : List L1Tx} (h : Ascends txs) (cursor : Nat) :
    b.inboxTxsFrom inbox cursor txs =
      (txs.filter (·.recipient? = some inbox)).map fun tx =>
        b.inboxTx inbox (cursor + blobsBelow txs tx.index) tx := by
  induction txs generalizing cursor with
  | nil => rfl
  | cons tx txs ih =>
    obtain ⟨hbelow, htail⟩ := List.pairwise_cons.1 h
    have hfirst : blobsBelow (tx :: txs) tx.index = 0 := by
      have hnone : (tx :: txs).filter (·.index < tx.index) = [] := by
        refine List.filter_eq_nil_iff.2 fun t ht => ?_
        rcases List.mem_cons.1 ht with rfl | hmem
        · simp [UInt64.lt_irrefl]
        · simpa using UInt64.le_of_lt (hbelow t hmem)
      rw [blobsBelow, hnone, blobCount_nil]
    have hothers : ∀ t ∈ txs.filter (·.recipient? = some inbox),
        b.inboxTx inbox (cursor + tx.blobHashes.length + blobsBelow txs t.index) t =
          b.inboxTx inbox (cursor + blobsBelow (tx :: txs) t.index) t := by
      intro t ht
      have hlt : tx.index < t.index := hbelow t (List.mem_of_mem_filter ht)
      have hcount : blobsBelow (tx :: txs) t.index =
          tx.blobHashes.length + blobsBelow txs t.index := by
        simp [blobsBelow, hlt]
      rw [hcount, Nat.add_assoc]
    rw [inboxTxsFrom, ih htail, List.map_congr_left hothers]
    by_cases hrecipient : tx.recipient? = some inbox
    · simp [hrecipient, hfirst]
    · simp [hrecipient]

/-! ## What is kept -/

/-- Transactions to the inbox have indices of the block, in the same order. -/
theorem sublist_inboxTxsFrom (b : L1Block) (inbox : Address) (cursor : Nat) (txs : List L1Tx) :
    ((b.inboxTxsFrom inbox cursor txs).map (·.index)).Sublist (txs.map (·.index)) := by
  induction txs generalizing cursor with
  | nil => exact .slnil
  | cons tx txs ih =>
    rw [inboxTxsFrom]
    split
    · exact (ih _).cons_cons _
    · exact (ih _).cons _

/-- Strictly ascending indices stay so. -/
theorem pairwise_index_inboxTxs (h : (b.txs.map (·.index)).Nodup) (inbox : Address) :
    ((b.inboxTxs inbox).map (·.index)).Pairwise (· < ·) :=
  (List.pairwise_map.2 (pairwise_sortedTxs h)).sublist (sublist_inboxTxsFrom b inbox 0 b.sortedTxs)

/-- Blobs of other transactions have taken the numbers that are left out. -/
theorem sublist_blobIndices (b : L1Block) (inbox : Address) (cursor : Nat) (txs : List L1Tx) :
    ((b.inboxTxsFrom inbox cursor txs).flatMap (·.blobIndices)).Sublist
      ((List.range' cursor (blobCount txs)).map (·.toUInt64)) := by
  induction txs generalizing cursor with
  | nil => exact .slnil
  | cons tx txs ih =>
    have hrange : List.range' cursor (blobCount (tx :: txs)) =
        List.range' cursor tx.blobHashes.length ++
          List.range' (cursor + tx.blobHashes.length) (blobCount txs) := by
      rw [blobCount_cons, List.range'_append_1]
    rw [inboxTxsFrom, hrange, List.map_append]
    split
    · exact (List.Sublist.refl _).append (ih _)
    · exact (ih _).trans (List.sublist_append_right _ _)

/-- The transactions to the inbox depend on the number and the time of a block, and on the
transactions that are given. -/
theorem inboxTxsFrom_congr (b b' : L1Block) (hnumber : b'.number = b.number)
    (htime : b'.timestamp = b.timestamp) (inbox : Address) (cursor : Nat) (txs : List L1Tx) :
    b'.inboxTxsFrom inbox cursor txs = b.inboxTxsFrom inbox cursor txs := by
  induction txs generalizing cursor with
  | nil => rfl
  | cons tx txs ih =>
    simp only [inboxTxsFrom, inboxTx, ih, hnumber, htime]

/-! ## Records -/

/-- The record of a transaction to the inbox.  Its blobs have consecutive numbers, beginning with
the number of blobs below. -/
structure Records (b : L1Block) (inbox : Address) (record : InboxTx) (tx : L1Tx) : Prop where
  block : record.block = b.number
  time : record.time = b.timestamp
  index : record.index = tx.index
  hash : record.hash = tx.hash
  sender : record.sender = tx.sender
  recipient : record.recipient = inbox
  type : record.type = tx.type
  calldata : record.calldata = if tx.type = InboxTx.blobType then [] else tx.input
  blobHashes : record.blobHashes = tx.blobHashes
  blobIndices : record.blobIndices.map (·.toNat) =
    List.range' (blobsBelow b.txs tx.index) tx.blobHashes.length

theorem map_toNat_toUInt64 {start n : Nat} (h : start + n ≤ UInt64.size) :
    ((List.range' start n).map (·.toUInt64)).map (·.toNat) = List.range' start n := by
  rw [List.map_map]
  conv_rhs => rw [← List.map_id (List.range' start n)]
  refine List.map_congr_left fun i hi => ?_
  have hlt : i < UInt64.size := by
    have := (List.mem_range'_1.1 hi).2
    omega
  exact UInt64.toNat_ofNat_of_lt' hlt

/-- What is kept of a transaction is its record, if the count is right. -/
theorem records_inboxTx {tx : L1Tx} (hmem : tx ∈ b.txs) (hfits : blobCount b.txs < UInt64.size) :
    b.Records inbox (b.inboxTx inbox (blobsBelow b.txs tx.index) tx) tx where
  block := rfl
  time := rfl
  index := rfl
  hash := rfl
  sender := rfl
  recipient := rfl
  type := rfl
  calldata := rfl
  blobHashes := rfl
  blobIndices := map_toNat_toUInt64 (Nat.le_trans (blobsBelow_add_le hmem) (Nat.le_of_lt hfits))

/-- **The transactions to the inbox** of a block with distinct indices: one record for each of them
and for no other, by ascending index, with the numbers of their blobs among all blobs of the block.
These ascend strictly as well.  The order in which the block lists its transactions does not
matter. -/
theorem inboxTxs_records (hindexed : (b.txs.map (·.index)).Nodup)
    (hfits : blobCount b.txs < UInt64.size) (inbox : Address) :
    (∃ txs : List L1Tx, txs.Perm (b.txs.filter (·.recipient? = some inbox)) ∧
      List.Forall₂ (b.Records inbox) (b.inboxTxs inbox) txs) ∧
    ((b.inboxTxs inbox).map (·.index)).Pairwise (· < ·) ∧
    ((b.inboxTxs inbox).flatMap (·.blobIndices)).Pairwise (· < ·) ∧
    ∀ txs : List L1Tx, txs.Perm b.txs → { b with txs := txs }.inboxTxs inbox = b.inboxTxs inbox := by
  have hperm : b.sortedTxs.Perm b.txs := List.mergeSort_perm b.txs _
  refine ⟨⟨b.sortedTxs.filter (·.recipient? = some inbox), hperm.filter _, ?_⟩,
    pairwise_index_inboxTxs hindexed inbox, ?_, fun txs htxs => ?_⟩
  · have hbelow : ∀ index, blobsBelow b.sortedTxs index = blobsBelow b.txs index :=
      fun index => blobCount_of_perm (hperm.filter _)
    rw [inboxTxs, inboxTxsFrom_eq (pairwise_sortedTxs hindexed), List.forall₂_map_left_iff,
      List.forall₂_same]
    intro tx htx
    have hmem : tx ∈ b.txs := hperm.mem_iff.1 (List.mem_of_mem_filter htx)
    rw [Nat.zero_add, hbelow]
    exact records_inboxTx hmem hfits
  · refine List.Pairwise.sublist (sublist_blobIndices b inbox 0 b.sortedTxs) ?_
    have hnumbers := List.pairwise_lt_range' (s := 0) (n := blobCount b.sortedTxs)
    rw [← map_toNat_toUInt64 (by rw [blobCount_of_perm hperm]; omega), List.pairwise_map] at hnumbers
    exact hnumbers.imp fun hst => UInt64.lt_iff_toNat_lt.2 hst
  · rw [inboxTxs, sortedTxs_eq_of_perm hindexed htxs]
    exact inboxTxsFrom_congr b { b with txs := txs } rfl rfl inbox 0 b.sortedTxs

/-! ### An example

A block with three transactions to an inbox, two of them with blobs.  The creation of a contract and
a transaction to another address have blobs of their own. -/

/-- The inbox. -/
def mixedInbox : Address := BytesN.zero 20

/-- A transaction with the given number of blobs. -/
def mixedTx (index : Word) (recipient? : Option Address) (blobs : Nat) : L1Tx where
  hash := BytesN.zero 32
  index := index
  sender := BytesN.zero 20
  recipient? := recipient?
  type := if blobs = 0 then 2 else InboxTx.blobType
  input := [0]
  blobHashes := List.replicate blobs (BytesN.zero 32)

/-- Another address than the inbox. -/
def otherAddress : Address := ⟨[1] ++ List.replicate 19 0, rfl⟩

/-- The transactions by ascending index. -/
def mixedTxs : List L1Tx :=
  [mixedTx 2 (some mixedInbox) 1, mixedTx 3 none 1, mixedTx 5 (some otherAddress) 2,
    mixedTx 6 (some mixedInbox) 0, mixedTx 7 (some otherAddress) 0, mixedTx 9 (some mixedInbox) 2]

/-- The block lists them the other way round. -/
def mixedBlock : L1Block := ⟨5, 60, mixedTxs.reverse⟩

theorem inboxTxs_records_mixedBlock :
    (mixedBlock.txs.map (·.index)).Nodup ∧ blobCount mixedBlock.txs < UInt64.size ∧
    (mixedBlock.inboxTxs mixedInbox).map (fun tx => (tx.index, tx.blobIndices)) =
      [(2, [0]), (6, []), (9, [4, 5])] := by
  have hindexed : (mixedBlock.txs.map (·.index)).Nodup := by decide
  have hfits : blobCount mixedBlock.txs < UInt64.size := by decide
  obtain ⟨-, -, -, hlisted⟩ := inboxTxs_records hindexed hfits mixedInbox
  have hsorted : sortedTxs { mixedBlock with txs := mixedTxs } = mixedTxs :=
    List.mergeSort_of_pairwise (by decide +kernel)
  refine ⟨hindexed, hfits, ?_⟩
  rw [← hlisted mixedTxs (List.reverse_perm mixedTxs).symm, inboxTxs, hsorted]
  rfl

end L1Block
end BatchInbox
