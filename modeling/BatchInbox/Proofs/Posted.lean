import BatchInbox.Proofs.Reading
import BatchInbox.Proofs.Scan

/-!
# What the batcher posted in a block

Of the transactions of a block, those from the batcher to the inbox are wanted.  They are sorted and
rewritten on the way, with the calldata of blob transactions left out, but no frame is lost and none
is added.

## What is here

* `L1Chain.posted` — the frames of a channel that the batcher posted as calldata.
* `L1Chain.BlobsAreSilent` — the blobs of a block do not mention a channel.
* `L1Chain.mem_wanted` — a wanted transaction is one of the block's.
* `L1Chain.own_perm_posted` — what is read of a channel in a block is what was posted.
-/

set_option autoImplicit false
namespace BatchInbox

/-- The transaction is from the batcher to the inbox. -/
def L1Tx.IsToInbox (c : Rollup) (tx : L1Tx) : Prop :=
  tx.recipient? = some c.inbox ∧ tx.sender = c.batcher

instance (c : Rollup) (tx : L1Tx) : Decidable (tx.IsToInbox c) :=
  inferInstanceAs (Decidable (_ ∧ _))

/-- The transaction carries no blobs. -/
def L1Tx.IsPlain (tx : L1Tx) : Prop :=
  tx.type ≠ InboxTx.blobType ∧ tx.blobHashes = []

instance (tx : L1Tx) : Decidable tx.IsPlain :=
  inferInstanceAs (Decidable (_ ∧ _))

namespace L1Chain
variable {l1 : L1Chain} {beacon : BeaconChain} {c : Rollup} {id : ChannelId} {n : Word}

/-- The frames of a channel in the calldata of the batcher's transactions without blobs. -/
def posted (l1 : L1Chain) (c : Rollup) (id : ChannelId) (n : Word) : List Frame :=
  ((l1.txs n).filter fun tx => tx.IsToInbox c ∧ tx.IsPlain).flatMap fun tx =>
    Frame.ownIn id tx.input

/-- No blob that the batcher's transactions in a block name has a frame of the channel. -/
def BlobsAreSilent (l1 : L1Chain) (beacon : BeaconChain) (c : Rollup) (id : ChannelId) (n : Word) :
    Prop :=
  ∀ tx ∈ l1.txs n, tx.IsToInbox c → ∀ blob, beacon.Keeps (l1.time n) tx.blobHashes blob →
    ∀ payload, blob.decode = .ok payload → Frame.ownIn id payload = []

/-! ## Wanted transactions -/

theorem mem_inboxTxsFrom {b : L1Block} {inbox : Address} {cursor : Nat} {txs : List L1Tx}
    {tx : InboxTx} (h : tx ∈ b.inboxTxsFrom inbox cursor txs) :
    ∃ raw ∈ txs, raw.recipient? = some inbox ∧ ∃ cursor', tx = b.inboxTx inbox cursor' raw := by
  induction txs generalizing cursor with
  | nil => exact absurd h List.not_mem_nil
  | cons raw txs ih =>
    rw [L1Block.inboxTxsFrom] at h
    have hlater : tx ∈ b.inboxTxsFrom inbox (cursor + raw.blobHashes.length) txs →
        ∃ raw' ∈ raw :: txs, raw'.recipient? = some inbox ∧
          ∃ cursor', tx = b.inboxTx inbox cursor' raw' := by
      intro hmem
      obtain ⟨raw', hraw', hspec⟩ := ih hmem
      exact ⟨raw', List.mem_cons_of_mem raw hraw', hspec⟩
    split at h
    · rename_i hrecipient
      rcases List.mem_cons.1 h with rfl | h
      · exact ⟨raw, List.mem_cons_self, hrecipient, cursor, rfl⟩
      · exact hlater h
    · exact hlater h

/-- A wanted transaction is one of the block's. -/
theorem mem_wanted {tx : InboxTx} (h : tx ∈ l1.wanted c.query n) :
    ∃ raw ∈ l1.txs n, raw.IsToInbox c ∧ tx.block = n ∧ tx.time = l1.time n ∧
      tx.blobHashes = raw.blobHashes := by
  obtain ⟨hmem, hsender⟩ := List.mem_filter.1 h
  obtain ⟨raw, hraw, hrecipient, cursor, rfl⟩ := mem_inboxTxsFrom hmem
  refine ⟨raw, List.mem_mergeSort.1 hraw, ⟨hrecipient, ?_⟩, rfl, rfl, rfl⟩
  simpa [L1Block.inboxTx, Rollup.query] using hsender

/-! ## Frames -/

/-- The frames of a channel in the calldata of a transaction, if its payloads are there. -/
def ownInCalldata (id : ChannelId) (tx : InboxTx) : List Frame :=
  if tx.payloadSource = .calldata then Frame.ownIn id tx.calldata else []

theorem ownInCalldata_inboxTx (b : L1Block) (inbox : Address) (cursor : Nat) (raw : L1Tx) :
    ownInCalldata id (b.inboxTx inbox cursor raw) =
      if raw.IsPlain then Frame.ownIn id raw.input else [] := by
  rw [ownInCalldata, InboxTx.payloadSource]
  simp only [L1Block.inboxTx, L1Tx.IsPlain]
  by_cases htype : raw.type = InboxTx.blobType
  · simp [htype]
  · by_cases hhashes : raw.blobHashes = [] <;> simp [htype, hhashes]

/-- Rewriting the transactions of a block loses no frame, and adds none. -/
theorem flatMap_inboxTxsFrom (b : L1Block) (cursor : Nat) (txs : List L1Tx) :
    ((b.inboxTxsFrom c.inbox cursor txs).filter (·.sender = c.batcher)).flatMap
        (ownInCalldata id) =
      (txs.filter fun tx => tx.IsToInbox c ∧ tx.IsPlain).flatMap fun tx =>
        Frame.ownIn id tx.input := by
  induction txs generalizing cursor with
  | nil => rfl
  | cons raw txs ih =>
    rw [L1Block.inboxTxsFrom]
    by_cases hrecipient : raw.recipient? = some c.inbox
    · rw [if_pos hrecipient]
      by_cases hsender : raw.sender = c.batcher
      · rw [List.filter_cons_of_pos (by simpa [L1Block.inboxTx] using hsender), List.flatMap_cons,
          ownInCalldata_inboxTx, ih]
        by_cases hplain : raw.IsPlain
        · rw [if_pos hplain, List.filter_cons_of_pos
            (by simpa [L1Tx.IsToInbox, hrecipient, hsender] using hplain), List.flatMap_cons]
        · rw [if_neg hplain, List.filter_cons_of_neg (by simp [hplain]), List.nil_append]
      · rw [List.filter_cons_of_neg (by simpa [L1Block.inboxTx] using hsender),
          List.filter_cons_of_neg (by simp [L1Tx.IsToInbox, hsender]), ih]
    · rw [if_neg hrecipient, List.filter_cons_of_neg (by simp [L1Tx.IsToInbox, hrecipient]), ih]

/-- What the batcher posted in a block is in its wanted transactions. -/
theorem flatMap_wanted_perm :
    ((l1.wanted c.query n).flatMap (ownInCalldata id)).Perm (l1.posted c id n) := by
  rw [wanted, L1Block.inboxTxs, Rollup.query, flatMap_inboxTxsFrom]
  exact ((List.mergeSort_perm (l1.txs n) _).filter _).flatMap_right _

/-- Blobs that do not mention a channel leave only calldata to look at. -/
theorem own_eq_ownInCalldata (hsilent : l1.BlobsAreSilent beacon c id n) {p : Intake.Post}
    (hp : p.tx ∈ l1.wanted c.query n)
    (hkeeps : ∀ blob ∈ p.blobs, beacon.Keeps p.tx.time p.tx.blobHashes blob) :
    p.own id = ownInCalldata id p.tx := by
  rw [Intake.Post.own, ownInCalldata, InboxTx.frames, InboxTx.payloads]
  cases hsource : p.tx.payloadSource with
  | calldata =>
    simp only [if_true]
    rw [List.flatMap_singleton]
    rfl
  | blobs =>
    obtain ⟨raw, hraw, htoInbox, -, htime, hhashes⟩ := mem_wanted hp
    rw [if_neg (by simp), Intake.own_eq_nil_iff]
    intro f hf
    obtain ⟨payload, hpayload, hf⟩ := List.mem_flatMap.1 hf
    obtain ⟨blob, hblob, hdecode⟩ := List.mem_filterMap.1 hpayload
    have hkept := hkeeps blob hblob
    rw [htime, hhashes] at hkept
    cases hpayload' : blob.decode with
    | error e =>
      rw [hpayload'] at hdecode
      exact absurd hdecode nofun
    | ok payload' =>
      rw [hpayload'] at hdecode
      cases hdecode
      exact Intake.own_eq_nil_iff.1 (hsilent raw hraw htoInbox blob hkept payload hpayload') f hf

/-- **What is read of a channel in a block is what was posted**, up to the order. -/
theorem own_perm_posted {b : Intake.Block} (hsupplies : l1.Supplies beacon c.query b)
    (hsilent : l1.BlobsAreSilent beacon c id b.number) :
    (b.own id).Perm (l1.posted c id b.number) := by
  have hmem : ∀ p ∈ b.posts, p.tx ∈ l1.wanted c.query b.number := fun p hp =>
    hsupplies.1 ▸ List.mem_map_of_mem hp
  have hown : b.own id = (l1.wanted c.query b.number).flatMap (ownInCalldata id) := by
    rw [Intake.Block.own, ← hsupplies.1, List.flatMap_map, List.flatMap_def, List.flatMap_def,
      List.map_congr_left fun p hp => own_eq_ownInCalldata hsilent (hmem p hp) (hsupplies.2 p hp)]
  rw [hown]
  exact flatMap_wanted_perm

/-- A transaction with frames of the channel carries no blobs. -/
theorem hasBlobs_of_own {b : Intake.Block} (hsupplies : l1.Supplies beacon c.query b)
    (hsilent : l1.BlobsAreSilent beacon c id b.number) {p : Intake.Post} (hp : p ∈ b.posts)
    (hown : p.own id ≠ []) : p.HasBlobs := by
  intro hsource
  rw [own_eq_ownInCalldata hsilent (hsupplies.1 ▸ List.mem_map_of_mem hp) (hsupplies.2 p hp),
    ownInCalldata, hsource] at hown
  exact absurd rfl hown

end L1Chain
end BatchInbox
