import BatchInbox.Proofs.Blob
import BatchInbox.Proofs.Coverage
import BatchInbox.Proofs.Frame
import BatchInbox.Proofs.Intake
import Mathlib

/-!
# From the batcher to the channel and back

A batcher writes batches in a row, compresses the row, cuts it into frames, and posts the frames in
payloads, in calldata or in blobs.  The intake undoes all of this: whatever the order in which the
frames come, and whatever comes between them, the channel closes with the transaction that brings
the last missing frame, and holds the same batches.

## What is here

* `Frame.IsCut` — the ways to cut data into frames.
* `Intake.Delivery` — a transaction with the frames of its payloads; `Delivery.IsSound` — they were
  written by a batcher, or the transaction has nothing to do with the channel.
* `Intake.Delivery.own_of_isSound` — what a batcher wrote is what the intake reads.
* `Intake.pushAll_wire` — the round trip.
-/

set_option autoImplicit false
namespace BatchInbox

/-- The data cut into chunks, each small enough for a frame, and not too many to be numbered. -/
structure Frame.IsCut (data : Bytes) (chunks : List Bytes) : Prop where
  flatten_eq : chunks.flatten = data
  one_le_length : 1 ≤ chunks.length
  length_le : chunks.length ≤ 65536
  length_chunk_le : ∀ chunk ∈ chunks, chunk.length ≤ 1000000

namespace Intake

/-! ## Payloads -/

/-- The payloads of a transaction are those of the given groups of frames: a single one in its
calldata, or any number in blobs. -/
inductive Post.Carries (p : Post) : List (List Frame) → Prop where
  | calldata {group : List Frame} (hsource : p.tx.payloadSource = .calldata)
      (hpayload : p.tx.calldata = Frame.encodeAll group) : Carries p [group]
  | blobs {groups : List (List Frame)} (hsource : p.tx.payloadSource = .blobs) (hblobs : p.HasBlobs)
      (hpayloads : (groups.map fun group => Blob.encode (Frame.encodeAll group)) =
        p.blobs.map .ok) : Carries p groups

/-- A transaction, and the groups of frames that a batcher put into its payloads. -/
structure Delivery extends Post where
  groups : List (List Frame)

/-- The frames of a channel that a batcher put into a transaction. -/
def Delivery.carried (id : ChannelId) (d : Delivery) : List Frame :=
  Intake.own id d.groups.flatten

/-- Either a batcher wrote the payloads, in which frames of other channels may come along, or the
transaction is none of the batcher's and does not mention the channel. -/
def Delivery.IsSound (id : ChannelId) (d : Delivery) : Prop :=
  (d.Carries d.groups ∧ ∀ f ∈ d.groups.flatten, f.channel ≠ id → f.Fits) ∨
    (d.groups = [] ∧ ∀ f ∈ d.tx.frames d.blobs, f.channel ≠ id)

theorem payloads_of_blobs {groups : List (List Frame)} {blobs : List Blob}
    (h : (groups.map fun group => Blob.encode (Frame.encodeAll group)) = blobs.map .ok) :
    (blobs.filterMap fun blob => blob.decode.toOption) = groups.map Frame.encodeAll := by
  induction groups generalizing blobs with
  | nil =>
    rw [List.map_nil, eq_comm, List.map_eq_nil_iff] at h
    rw [h]
    rfl
  | cons group groups ih =>
    cases blobs with
    | nil => exact absurd h nofun
    | cons blob blobs =>
      obtain ⟨hblob, hblobs⟩ := List.cons.inj h
      rw [List.filterMap_cons, Blob.decode_of_encode hblob, ih hblobs]
      rfl

theorem flatMap_decodeAll {groups : List (List Frame)} (h : ∀ f ∈ groups.flatten, f.Fits) :
    ((groups.map Frame.encodeAll).flatMap fun payload =>
      (Frame.decodeAll payload).toOption.getD []) = groups.flatten := by
  induction groups with
  | nil => rfl
  | cons group groups ih =>
    rw [List.flatten_cons, List.forall_mem_append] at h
    rw [List.map_cons, List.flatMap_cons, Frame.decodeAll_encodeAll h.1, ih h.2]
    rfl

/-- The frames that a batcher put into the payloads are those that are read. -/
theorem Post.frames_of_carries {p : Post} {groups : List (List Frame)} (h : p.Carries groups)
    (hfits : ∀ f ∈ groups.flatten, f.Fits) : p.tx.frames p.blobs = groups.flatten := by
  have hpayloads : p.tx.payloads p.blobs = groups.map Frame.encodeAll := by
    rw [InboxTx.payloads]
    cases h with
    | calldata hsource hpayload => rw [hsource, hpayload]; rfl
    | blobs hsource _ hpayloads => rw [hsource]; exact payloads_of_blobs hpayloads
  rw [InboxTx.frames, hpayloads]
  exact flatMap_decodeAll hfits

theorem Post.hasBlobs_of_carries {p : Post} {groups : List (List Frame)} (h : p.Carries groups) :
    p.HasBlobs := by
  cases h with
  | calldata hsource _ =>
    intro hblobs
    rw [hsource] at hblobs
    exact absurd hblobs nofun
  | blobs _ hblobs _ => exact hblobs

/-- What a batcher put into a transaction is what is read. -/
theorem Delivery.own_of_isSound {id : ChannelId} {d : Delivery} (h : d.IsSound id)
    (hfits : ∀ f ∈ d.carried id, f.Fits) : d.own id = d.carried id := by
  rcases h with ⟨hcarries, hothers⟩ | ⟨hgroups, hsilent⟩
  · have hall : ∀ f ∈ d.groups.flatten, f.Fits := fun f hf => by
      by_cases hid : f.channel = id
      · exact hfits f (List.mem_filter.2 ⟨hf, decide_eq_true hid⟩)
      · exact hothers f hf hid
    rw [Post.own, Post.frames_of_carries hcarries hall, Delivery.carried]
  · rw [Post.own, Delivery.carried, hgroups, own_eq_nil_iff.2 hsilent]
    rfl

theorem Delivery.hasBlobs_of_isSound {id : ChannelId} {d : Delivery} (h : d.IsSound id)
    (hcarried : d.carried id ≠ []) : d.HasBlobs := by
  rcases h with ⟨hcarries, -⟩ | ⟨hgroups, -⟩
  · exact Post.hasBlobs_of_carries hcarries
  · rw [Delivery.carried, hgroups] at hcarried
    exact absurd rfl hcarried

/-! ## The round trip -/

/-- **Batches come back from the wire.**  A row of batches is compressed, cut into frames, and the
frames are carried by transactions, each once and in any order.  Transactions with frames of the
channel come in blocks that have not been left behind, no more than the timeout apart.  Then the
intake reads just what was carried, and the channel closes with the transaction that carries the
last missing frame; it holds all the data, and its batches are those of the row. -/
theorem pushAll_wire {batches : List Batch} {data : Bytes} {limit : Word} {chunks : List Bytes}
    {id : ChannelId} {s : Intake} {deliveries : List Delivery}
    (hbatches : ∀ b ∈ batches, b.WellFormed)
    (hdata : Compression.decompress data limit = .ok (Batch.encodeStream batches))
    (hcut : Frame.IsCut data chunks)
    (hsound : ∀ d ∈ deliveries, d.IsSound id)
    (honce : (deliveries.flatMap (Delivery.carried id)).Perm (Frame.ofChunks id chunks))
    (horder : deliveries.Pairwise fun d e => e.carried id ≠ [] → d.tx.block ≤ e.tx.block)
    (hspan : ∀ d ∈ deliveries, ∀ e ∈ deliveries, d.carried id ≠ [] → e.carried id ≠ [] →
      e.tx.block.toNat ≤ d.tx.block.toNat + s.table.timeout.toNat)
    (hcursor : ∀ d ∈ deliveries, d.carried id ≠ [] →
      ∀ current, s.block? = some current → current ≤ d.tx.block)
    (hnew : s.table.find? id = none) :
    (∀ d ∈ deliveries, d.own id = d.carried id) ∧
      ∃ closed : ClosedChannel, s.ClosesWith id (deliveries.map (·.toPost)) closed ∧
        closed.id = id ∧ closed.data = data ∧ closed.frameCount = chunks.length ∧
        (∃ d ∈ deliveries, d.carried id ≠ [] ∧ closed.firstSeen = d.tx.block ∧
          ∀ e ∈ deliveries, e.carried id ≠ [] → d.tx.block ≤ e.tx.block) ∧
        closed.batches limit = .ok batches := by
  have hfits : ∀ f ∈ Frame.ofChunks id chunks, f.Fits := fun f hf =>
    hcut.length_chunk_le f.data (Frame.data_mem_of_mem_ofChunks hf)
  have hown : ∀ d ∈ deliveries, d.own id = d.carried id := fun d hd =>
    Delivery.own_of_isSound (hsound d hd) fun f hf =>
      hfits f (honce.mem_iff.1 (List.mem_flatMap.2 ⟨d, hd, hf⟩))
  refine ⟨hown, ?_⟩
  have hflat : (deliveries.map (·.toPost)).flatMap (Post.own id) =
      deliveries.flatMap (Delivery.carried id) := by
    rw [List.flatMap_map, List.flatMap_def, List.flatMap_def, List.map_congr_left hown]
  have hcarried : ∀ d ∈ deliveries, d.own id ≠ [] → d.carried id ≠ [] := fun d hd hne =>
    hown d hd ▸ hne
  have horder' : (deliveries.map (·.toPost)).Pairwise fun p q =>
      q.own id ≠ [] → p.tx.block ≤ q.tx.block := by
    rw [List.pairwise_map]
    exact horder.imp_of_mem fun _ he hde hne => hde (hcarried _ he hne)
  have hspan' : ∀ p ∈ deliveries.map (·.toPost), ∀ q ∈ deliveries.map (·.toPost),
      p.own id ≠ [] → q.own id ≠ [] →
        q.tx.block.toNat ≤ p.tx.block.toNat + s.table.timeout.toNat := by
    simp only [List.forall_mem_map]
    intro d hd e he hdne hene
    exact hspan d hd e he (hcarried d hd hdne) (hcarried e he hene)
  have hcursor' : ∀ p ∈ deliveries.map (·.toPost), p.own id ≠ [] →
      ∀ current, s.block? = some current → current ≤ p.tx.block := by
    simp only [List.forall_mem_map]
    exact fun d hd hne => hcursor d hd (hcarried d hd hne)
  have hcount : ∀ p ∈ deliveries.map (·.toPost), p.own id ≠ [] → p.HasBlobs := by
    simp only [List.forall_mem_map]
    exact fun d hd hne => Delivery.hasBlobs_of_isSound (hsound d hd) (hcarried d hd hne)
  obtain ⟨first, hmem, closedAt, hfirst, hleast, hcloses⟩ :=
    closesWith_of_perm (Frame.isWhole_ofChunks hcut.one_le_length hcut.length_le) (hflat ▸ honce)
      horder' hspan' hcursor' hcount hnew
  obtain ⟨d, hd, rfl⟩ := List.mem_map.1 hmem
  have hdata' : (whole id d.tx.block (Frame.ofChunks id chunks) closedAt).data = data := by
    rw [whole, Frame.flatMap_data_ofChunks, hcut.flatten_eq]
  refine ⟨_, hcloses, rfl, hdata', Frame.length_ofChunks id chunks, ?_, ?_⟩
  · refine ⟨d, hd, hcarried d hd hfirst, rfl, fun e he hne => ?_⟩
    exact hleast e.toPost (List.mem_map_of_mem he) (by rwa [hown e he])
  · rw [← hdata'] at hdata
    exact ClosedChannel.batches_of_decompress hdata hbatches

/-! ### An example

A channel of two frames.  The second frame comes first, in calldata; then a transaction that the
batcher has not written; then the first frame, in a blob. -/

/-- A span batch of three blocks. -/
def threeBlocks : Batch :=
  .span ⟨20, 7, BytesN.zero 20, BytesN.zero 20, 3, [5], [1, 0, 2], [9, 9]⟩

/-- A row with this batch only, compressed. -/
def threeBlocksData : Bytes := Compression.compress .zstd (Batch.encodeStream [threeBlocks])

/-- The row in two chunks. -/
def threeBlocksChunks : List Bytes := [threeBlocksData.take 30, threeBlocksData.drop 30]

/-- A frame of the row. -/
def threeBlocksFrame (number : UInt16) : Frame :=
  ⟨BytesN.zero 16, number, threeBlocksChunks.getD number.toNat [], number = 1⟩

/-- A transaction in a block. -/
def txIn (block : Word) (type : UInt8) (calldata : Bytes) (blobHashes : List Hash) : InboxTx :=
  ⟨block, 0, 0, BytesN.zero 32, BytesN.zero 20, BytesN.zero 20, type, calldata, blobHashes, []⟩

/-- The transactions with the frames of the row, and one in between. -/
def threeBlocksDeliveries (blob : Blob) : List Delivery :=
  [⟨⟨txIn 10 2 (Frame.encodeAll [threeBlocksFrame 1]) [], []⟩, [[threeBlocksFrame 1]]⟩,
    ⟨⟨txIn 11 2 [7] [], []⟩, []⟩,
    ⟨⟨txIn 12 3 [] [BytesN.zero 32], [blob]⟩, [[threeBlocksFrame 0]]⟩]

theorem pushAll_wire_threeBlocks : ∃ blob closed,
    Blob.encode (Frame.encodeAll [threeBlocksFrame 0]) = .ok blob ∧
      (Intake.new 2).ClosesWith (BytesN.zero 16)
        ((threeBlocksDeliveries blob).map (·.toPost)) closed ∧
      closed.data = threeBlocksData ∧ closed.batches 1000 = .ok [threeBlocks] := by
  obtain ⟨blob, hblob, -, -⟩ :=
    Blob.exists_encode_decode (by decide +kernel :
      (Frame.encodeAll [threeBlocksFrame 0]).length ≤ Blob.maxPayload)
  have hbatches : ∀ b ∈ [threeBlocks], b.WellFormed := by decide +kernel
  have hdata : Compression.decompress threeBlocksData 1000 =
      .ok (Batch.encodeStream [threeBlocks]) := by cbv
  have hlength : threeBlocksData.length = 60 := by cbv
  have hcut : Frame.IsCut threeBlocksData threeBlocksChunks := by
    refine ⟨?_, by decide, by decide, ?_⟩
    · rw [threeBlocksChunks, List.flatten_cons, List.flatten_cons, List.flatten_nil,
        List.append_nil, List.take_append_drop]
    · simp [threeBlocksChunks, hlength]
  have hsound : ∀ d ∈ threeBlocksDeliveries blob, d.IsSound (BytesN.zero 16) := by
    have hown : ∀ number, ∀ f ∈ [[threeBlocksFrame number]].flatten,
        f.channel ≠ BytesN.zero 16 → f.Fits := by
      intro number f hf hne
      rw [List.mem_singleton.1 hf] at hne
      exact absurd rfl hne
    simp only [threeBlocksDeliveries, List.forall_mem_cons]
    refine ⟨.inl ⟨.calldata rfl rfl, hown 1⟩, .inr ⟨rfl, fun _ hf => by cases hf⟩,
      .inl ⟨.blobs rfl (fun _ => rfl) ?_, hown 0⟩, fun _ hd => by cases hd⟩
    rw [List.map_singleton, hblob]
    rfl
  have honce : ((threeBlocksDeliveries blob).flatMap (Delivery.carried (BytesN.zero 16))).Perm
      (Frame.ofChunks (BytesN.zero 16) threeBlocksChunks) :=
    List.Perm.swap (threeBlocksFrame 0) (threeBlocksFrame 1) []
  have hblocks : (threeBlocksDeliveries blob).Pairwise fun d e => d.tx.block ≤ e.tx.block := by
    simp [threeBlocksDeliveries, txIn]
  have horder : (threeBlocksDeliveries blob).Pairwise fun d e =>
      e.carried (BytesN.zero 16) ≠ [] → d.tx.block ≤ e.tx.block := by
    refine hblocks.imp ?_
    intro d e hle _
    exact hle
  have hspan : ∀ d ∈ threeBlocksDeliveries blob, ∀ e ∈ threeBlocksDeliveries blob,
      e.tx.block.toNat ≤ d.tx.block.toNat + (Intake.new 2).table.timeout.toNat := by
    simp [threeBlocksDeliveries, txIn, Intake.new, ChannelTable.new]
  obtain ⟨-, closed, hcloses, -, hcloseddata, -, -, hclosedbatches⟩ :=
    pushAll_wire (s := .new 2) hbatches hdata hcut hsound honce horder
      (fun d hd e he _ _ => hspan d hd e he) (fun _ _ _ _ h => by cases h) rfl
  exact ⟨blob, closed, hblob, hcloses, hcloseddata, hclosedbatches⟩

end Intake
end BatchInbox
