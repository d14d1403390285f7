import BatchInbox.Proofs.InboxTxs
import BatchInbox.Proofs.Transparency

/-!
# Strangers do not matter

Anyone may send transactions to the inbox.  But as long as they carry no blobs, the transactions of
others than the batcher change the result of a request in no way: they are sorted, written to files
and read again with those of the batcher, and they shift the indices of those, but not their order.

A stranger's blobs do matter, since the places of the batcher's blobs are counted among all blobs of
the block.  So it is taken to be the same in two versions of L1 which transactions carry blobs.

## What is here

* `L1Tx.IsStranger` — transactions that should not matter.
* `L1Chain.SameButStrangers` — versions of L1 that differ in those only.
* `map_unindexed_wanted` — the wanted transactions are the same but for their indices.
* `L1Chain.Corresponds` — the places of wanted transactions; `keepsOrder_corresponds`.
* `resolve_strangers` — the outcome of a request is the same.
-/

set_option autoImplicit false
namespace BatchInbox
open Effect (Tracks)

/-! ## Versions of L1 -/

/-- The transaction is not from the batcher to the inbox, and carries no blobs. -/
def L1Tx.IsStranger (c : Rollup) (tx : L1Tx) : Prop :=
  ¬ tx.IsToInbox c ∧ tx.blobHashes = []

instance (c : Rollup) (tx : L1Tx) : Decidable (tx.IsStranger c) :=
  inferInstanceAs (Decidable (_ ∧ _))

/-- The transaction, its index aside. -/
def L1Tx.unindexed (tx : L1Tx) : L1Tx := { tx with index := 0 }

/-- The other transactions of a block, by ascending index, with their indices left out. -/
def L1Block.known (b : L1Block) (c : Rollup) : List L1Tx :=
  (b.sortedTxs.filter fun tx => ¬ tx.IsStranger c).map (·.unindexed)

/-- The indices of the transactions of each block are distinct. -/
def L1Chain.IsIndexed (l1 : L1Chain) : Prop :=
  ∀ n, ((l1.txs n).map (·.index)).Nodup

/-- Versions of L1 that differ in the transactions of strangers only, and in the indices of all
transactions. -/
structure L1Chain.SameButStrangers (c : Rollup) (l1 l1' : L1Chain) : Prop where
  time : ∀ n, l1'.time n = l1.time n
  known : ∀ n, (l1'.block n).known c = (l1.block n).known c
  isIndexed : l1.IsIndexed
  isIndexed' : l1'.IsIndexed

/-! ## Wanted transactions -/

/-- The transaction, its index aside. -/
def InboxTx.unindexed (tx : InboxTx) : InboxTx := { tx with index := 0 }

/-- Strangers' transactions do not count: the places of blobs are the same without them. -/
theorem map_unindexed_inboxTxsFrom (b : L1Block) (c : Rollup) (cursor : Nat) (txs : List L1Tx) :
    ((b.inboxTxsFrom c.inbox cursor txs).filter (·.sender = c.batcher)).map (·.unindexed) =
      (b.inboxTxsFrom c.inbox cursor
        ((txs.filter fun tx => ¬ tx.IsStranger c).map (·.unindexed))).filter
          (·.sender = c.batcher) := by
  induction txs generalizing cursor with
  | nil => rfl
  | cons tx txs ih =>
    have hrest := ih (cursor + tx.blobHashes.length)
    rw [L1Block.inboxTxsFrom]
    by_cases hstranger : tx.IsStranger c
    · rw [List.filter_cons_of_neg (by simpa using hstranger)]
      rw [hstranger.2, List.length_nil, Nat.add_zero] at hrest ⊢
      split
      · rename_i hrecipient
        have hsender : tx.sender ≠ c.batcher := fun hsender => hstranger.1 ⟨hrecipient, hsender⟩
        rw [List.filter_cons_of_neg (by simpa [L1Block.inboxTx] using hsender)]
        exact hrest
      · exact hrest
    · rw [List.filter_cons_of_pos (by simpa using hstranger), List.map_cons, L1Block.inboxTxsFrom]
      by_cases hrecipient : tx.recipient? = some c.inbox
      · rw [if_pos hrecipient, if_pos (show tx.unindexed.recipient? = _ from hrecipient)]
        by_cases hsender : tx.sender = c.batcher
        · rw [List.filter_cons_of_pos (by simpa [L1Block.inboxTx] using hsender),
            List.filter_cons_of_pos (by simpa [L1Block.inboxTx, L1Tx.unindexed] using hsender)]
          exact congrArg (b.inboxTx c.inbox cursor tx.unindexed :: ·) hrest
        · rw [List.filter_cons_of_neg (by simpa [L1Block.inboxTx] using hsender),
            List.filter_cons_of_neg (by simpa [L1Block.inboxTx, L1Tx.unindexed] using hsender)]
          exact hrest
      · rw [if_neg hrecipient, if_neg (show tx.unindexed.recipient? ≠ _ from hrecipient)]
        exact hrest

/-- **The wanted transactions are the same**, their indices aside. -/
theorem map_unindexed_wanted {c : Rollup} {l1 l1' : L1Chain} (h : l1.SameButStrangers c l1')
    (n : Word) :
    (l1'.wanted c.query n).map (·.unindexed) = (l1.wanted c.query n).map (·.unindexed) := by
  have hknown : ((l1'.block n).sortedTxs.filter fun tx => ¬ tx.IsStranger c).map (·.unindexed) =
      ((l1.block n).sortedTxs.filter fun tx => ¬ tx.IsStranger c).map (·.unindexed) := h.known n
  have hcongr : ∀ txs, (l1'.block n).inboxTxsFrom c.inbox 0 txs =
      (l1.block n).inboxTxsFrom c.inbox 0 txs :=
    L1Block.inboxTxsFrom_congr (l1.block n) (l1'.block n) rfl (h.time n) c.inbox 0
  rw [L1Chain.wanted, L1Chain.wanted, L1Block.inboxTxs, L1Block.inboxTxs, Rollup.query,
    map_unindexed_inboxTxsFrom, map_unindexed_inboxTxsFrom, hknown, hcongr]

/-! ## Places -/

/-- The indices of the transactions that a query wants. -/
def L1Chain.indices (l1 : L1Chain) (q : InboxQuery) (n : Word) : List Word :=
  (l1.wanted q n).map (·.index)

/-- They ascend. -/
theorem pairwise_indices {l1 : L1Chain} (h : l1.IsIndexed) (q : InboxQuery) (n : Word) :
    (l1.indices q n).Pairwise (· < ·) :=
  (L1Block.pairwise_index_inboxTxs (h n) q.inbox).sublist (List.filter_sublist.map _)

/-- Places of the same block, and of the same wanted transaction there. -/
def L1Chain.Corresponds (l1 l1' : L1Chain) (q : InboxQuery) (p p' : L1Position) : Prop :=
  p.block = p'.block ∧ ∃ i : Nat, (l1.indices q p.block)[i]? = some p.txIndex ∧
    (l1'.indices q p.block)[i]? = some p'.txIndex

/-- The order of ascending words is that of their places in the list. -/
theorem compare_of_pairwise {ws : List Word} (h : ws.Pairwise (· < ·)) {i j : Nat} {a b : Word}
    (ha : ws[i]? = some a) (hb : ws[j]? = some b) : compare a b = compare i j := by
  obtain ⟨hi, rfl⟩ := List.getElem?_eq_some_iff.1 ha
  obtain ⟨hj, rfl⟩ := List.getElem?_eq_some_iff.1 hb
  rw [List.pairwise_iff_getElem] at h
  rcases Nat.lt_trichotomy i j with hij | rfl | hij
  · rw [Std.compare_eq_lt.2 hij, Std.compare_eq_lt.2 (h i j hi hj hij)]
  · rw [Std.compare_eq_eq_iff_eq.2 rfl, Std.compare_eq_eq_iff_eq.2 rfl]
  · rw [Std.compare_eq_gt.2 hij, Std.compare_eq_gt.2 (h j i hj hi hij)]

/-- **Wanted transactions are in the same order** in both versions. -/
theorem keepsOrder_corresponds {l1 l1' : L1Chain} (h : l1.IsIndexed) (h' : l1'.IsIndexed)
    (q : InboxQuery) : L1Position.KeepsOrder (l1.Corresponds l1' q) where
  block hp := hp.1
  compare := by
    rintro ⟨m, a⟩ ⟨_, a'⟩ ⟨n, b⟩ ⟨_, b'⟩ ⟨rfl, i, ha, ha'⟩ ⟨rfl, j, hb, hb'⟩
    show (compare m n).then (compare a b) = (compare m n).then (compare a' b')
    cases hmn : compare m n with
    | lt => rfl
    | gt => rfl
    | eq =>
      obtain rfl : m = n := Std.compare_eq_eq_iff_eq.1 hmn
      exact congrArg _ ((compare_of_pairwise (pairwise_indices h q m) ha hb).trans
        (compare_of_pairwise (pairwise_indices h' q m) ha' hb').symm)

/-- The wanted transactions of both versions are alike. -/
theorem forall₂_wanted {c : Rollup} {l1 l1' : L1Chain} (h : l1.SameButStrangers c l1') (n : Word) :
    List.Forall₂ (InboxTx.Alike (l1.Corresponds l1' c.query)) (l1.wanted c.query n)
      (l1'.wanted c.query n) := by
  have hsame := map_unindexed_wanted h n
  have hlength : (l1.wanted c.query n).length = (l1'.wanted c.query n).length := by
    have hlengths := congrArg List.length hsame
    rw [List.length_map, List.length_map] at hlengths
    exact hlengths.symm
  refine List.forall₂_iff_get.2 ⟨hlength, fun i hi hi' => ?_⟩
  have heq : ((l1'.wanted c.query n)[i]).unindexed = ((l1.wanted c.query n)[i]).unindexed := by
    have hat := congrArg (fun txs => txs[i]?) hsame
    simpa [hi, hi'] using hat
  have hblock : ∀ l : L1Chain, ∀ tx ∈ l.wanted c.query n, tx.block = n := fun l tx htx =>
    (L1Block.of_mem_inboxTxs (List.mem_of_mem_filter htx)).2
  refine ⟨?_, ?_, i, ?_, ?_⟩
  · exact congrArg (fun tx : InboxTx => { tx with index := ((l1'.wanted c.query n)[i]).index }) heq
  · exact (hblock l1 _ (List.getElem_mem hi)).trans (hblock l1' _ (List.getElem_mem hi')).symm
  · simp [L1Chain.indices, InboxTx.position, hblock l1 _ (List.getElem_mem hi), hi]
  · simp [L1Chain.indices, InboxTx.position, hblock l1 _ (List.getElem_mem hi), hi']

/-! ## Two requests -/

section
variable {σ τ : Type} {W : σ → τ → Prop} {u : Endpoints σ} {u' : Endpoints τ} {c : Rollup}
  {l1 l1' : L1Chain} {d d' : Disk}

/-- The files of the chain are those of both versions, for the same blocks, and there are no
directories. -/
structure Disk.InStep (l1 l1' : L1Chain) (c : Rollup) (d d' : Disk) : Prop where
  load : ∀ n, (d.load? c.l2ChainId n = none ∧ d'.load? c.l2ChainId n = none) ∨
    (d.load? c.l2ChainId n = some ((l1.block n).inboxTxs c.inbox) ∧
      d'.load? c.l2ChainId n = some ((l1'.block n).inboxTxs c.inbox))
  free : ∀ n, d.find? c.l2ChainId n ≠ some .directory ∧ d'.find? c.l2ChainId n ≠ some .directory

theorem Disk.inStep_empty : Disk.InStep l1 l1' c .empty .empty :=
  ⟨fun _ => .inl ⟨rfl, rfl⟩, fun _ => ⟨nofun, nofun⟩⟩

/-- Writing the file of a block in both versions. -/
theorem Disk.InStep.store (h : d.InStep l1 l1' c d') (n : Word) :
    ((d.store? c.l2ChainId n ((l1.block n).inboxTxs c.inbox)).getD d).InStep l1 l1' c
      ((d'.store? c.l2ChainId n ((l1'.block n).inboxTxs c.inbox)).getD d') := by
  obtain ⟨hfree, hfree'⟩ := h.free n
  refine ⟨fun m => ?_, fun m => ⟨?_, ?_⟩⟩
  · by_cases hm : m = n
    · subst hm
      exact .inr ⟨load?_getD_store?_self hfree, load?_getD_store?_self hfree'⟩
    · have hkey : (c.l2ChainId, m) ≠ (c.l2ChainId, n) := fun heq => hm (Prod.mk.inj heq).2
      rw [load?_congr (find?_getD_store?_of_ne hkey _),
        load?_congr (find?_getD_store?_of_ne hkey _)]
      exact h.load m
  · exact (keeps_getD_store? c.l2ChainId d _ _ _).find m (h.free m).1
  · exact (keeps_getD_store? c.l2ChainId d' _ _ _).find m (h.free m).2

/-- The nodes differ in their answers to questions for blocks: one tells the blocks of one version of
L1, and the other those of the other.  They fail together. -/
structure Endpoints.TellApart (W : σ → τ → Prop) (l1 l1' : L1Chain) (u : Endpoints σ)
    (u' : Endpoints τ) : Prop where
  alike : u.Alike False W u'
  block : ∀ n, Tracks False W (fun b b' => b = l1.block n ∧ b' = l1'.block n) (u.l1.block n)
    (u'.l1.block n)

/-- **The step.**  Both versions of a block are fetched alike. -/
theorem Endpoints.TellApart.fetchesAlike (hu : u.TellApart W l1 l1' u')
    (h : l1.SameButStrangers c l1') (n : Word) :
    c.query.FetchesAlike False W (Disk.InStep l1 l1' c) (l1.Corresponds l1' c.query) u.l1 u'.l1
      n := by
  intro w d w' d' hw hd
  rcases hd.load n with ⟨hload, hload'⟩ | ⟨hload, hload'⟩
  · have hblock := hu.block n w w' hw
    rw [InboxQuery.fetch_step hload, InboxQuery.fetch_step hload']
    generalize (u.l1.block n).step w = r at hblock ⊢
    generalize (u'.l1.block n).step w' = r' at hblock ⊢
    cases hblock with
    | error e hs => exact ⟨.error e, hs, hd⟩
    | excused hlenient => exact hlenient.elim
    | ok hblocks hs =>
      obtain ⟨rfl, rfl⟩ := hblocks
      exact ⟨.ok (forall₂_wanted h n), hs, hd.store n⟩
  · rw [InboxQuery.fetch_step_hit hload, InboxQuery.fetch_step_hit hload']
    exact ⟨.ok (forall₂_wanted h n), hw, hd⟩

/-- **Strangers do not matter.**  If L1 differs in their transactions only, the outcome of a request
is the same, be it a result or an error. -/
theorem resolve_strangers (hu : u.TellApart W l1 l1' u') (h : l1.SameButStrangers c l1')
    (settings : ResolveSettings) (start last : Word) {w : σ} {w' : τ} (hw : W w w') :
    ((resolve u settings c start last).step ⟨w, .empty, .empty⟩).1 =
      ((resolve u' settings c start last).step ⟨w', .empty, .empty⟩).1 := by
  have htracks := tracks_resolve (D := Disk.InStep l1 l1' c) hu.alike
    (keepsOrder_corresponds h.isIndexed h.isIndexed' c.query) settings c start last
    (fun _ _ _ _ _ _ _ n _ _ => hu.fetchesAlike h n) ⟨w, .empty, .empty⟩ ⟨w', .empty, .empty⟩
    ⟨hw, Disk.inStep_empty, rfl⟩
  exact htracks.alike.eq

end

/-! ### An example

A stranger sends a frame of the channel to the inbox before the batcher does, and another one creates
contracts. -/

/-- The three blocks with transactions of a stranger. -/
def crowdedL1 : L1Chain :=
  { threeBlocksL1 with
    txs := fun n =>
      if n = 1 then
        [{ threeBlocksTx 0 with sender := otherBatcher.batcher },
          { threeBlocksTx 1 with index := 1 }]
      else if n = 2 then [threeBlocksTx 0]
      else [{ threeBlocksTx 0 with recipient? := none }] }

/-- The nodes of the crowded blocks. -/
def crowdedNodes : Endpoints Unit := ⟨crowdedL1.client, noBlobs.node, fun _ => false⟩

theorem threeBlocksNodes_tellApart :
    threeBlocksNodes.TellApart Eq threeBlocksL1 crowdedL1 crowdedNodes where
  alike := ⟨.refl _, fun _ => .refl _, .refl _, fun _ => .refl _, fun _ _ _ => .inl rfl⟩
  block _ := .pure ⟨rfl, rfl⟩

theorem sameButStrangers_crowdedL1 :
    threeBlocksL1.SameButStrangers threeBlocksRollup crowdedL1 := by
  have hcases : ∀ n : Word, n = 1 ∨ n = 2 ∨
      (threeBlocksL1.txs n = [] ∧
        crowdedL1.txs n = [{ threeBlocksTx 0 with recipient? := none }]) := by
    intro n
    by_cases hone : n = 1
    · exact .inl hone
    · by_cases htwo : n = 2
      · exact .inr (.inl htwo)
      · simp [threeBlocksL1, crowdedL1, hone, htwo]
  have hsorted : ∀ (l1 : L1Chain) (n : Word),
      (l1.txs n).Pairwise (fun s t => decide (s.index ≤ t.index)) →
        (l1.block n).sortedTxs = l1.txs n :=
    fun l1 n h => List.mergeSort_of_pairwise h
  refine ⟨fun _ => rfl, fun n => ?_, fun n => ?_, fun n => ?_⟩
  · rw [L1Block.known, L1Block.known]
    rcases hcases n with rfl | rfl | ⟨hnone, hcreation⟩
    · rw [hsorted threeBlocksL1 1 (by decide +kernel), hsorted crowdedL1 1 (by decide +kernel)]
      decide +kernel
    · rw [hsorted threeBlocksL1 2 (by decide +kernel), hsorted crowdedL1 2 (by decide +kernel)]
      decide +kernel
    · rw [hsorted threeBlocksL1 n (by simp [hnone]), hsorted crowdedL1 n (by simp [hcreation]),
        hnone, hcreation]
      decide +kernel
  · rcases hcases n with rfl | rfl | ⟨hnone, -⟩
    · decide +kernel
    · decide +kernel
    · simp [hnone]
  · rcases hcases n with rfl | rfl | ⟨-, hcreation⟩
    · decide +kernel
    · decide +kernel
    · simp [hcreation]

theorem resolve_strangers_crowdedL1 :
    ((resolve crowdedNodes threeBlocksSettings threeBlocksRollup 10 12).step
      ⟨(), .empty, .empty⟩).1 = .ok ⟨[⟨10, 12⟩], [], 0, 3⟩ :=
  (resolve_strangers threeBlocksNodes_tellApart sameButStrangers_crowdedL1 threeBlocksSettings 10 12
    rfl).symm.trans resolve_threeBlocks

end BatchInbox
