import BatchInbox.Beacon
import BatchInbox.Proofs.Effect
import Mathlib.Data.List.Nodup
import Mathlib.Data.Nat.Find

/-!
# Which sidecars are taken

A transaction may say where among the blobs of its block each of its blobs is.  If it does so for all
of them, a sidecar is taken by its index, and its hash is checked; otherwise it is taken by its hash.
Either way the hash decides whose blob is given, and an index only which sidecar is looked at.

The two ways do not fail alike.  By index, the first sidecar with the index is the only one that is
looked at, so a blob may be refused although it is there.  By hash it is found wherever it is, so
whatever is found by index is found by hash as well.  It need not be in the same sidecar; but then the
sidecars share a hash, and if these carry the same blob it does not matter.

## What is here

* `Refuses` — why no sidecar is taken for a hash; `chosen_eq_error_iff`.
* `selectBlobs_eq_error_iff` — the error is that of the first hash for which there is one.
* `isMapOf_of_selectBlobs` — if there is none, the blobs are those of the hashes.
* `selectBlobs_byHash` — what is found by index is found by hash.
* `fetchBlobs_selects` — all of this, for blobs that are looked up in their slot.
-/

set_option autoImplicit false
namespace BatchInbox

/-! ## One hash -/

/-- Why none of the sidecars of a slot is taken for a hash, with an index or without. -/
inductive Refuses (sidecars : List BlobSidecar) (slot : Word) (hash : Hash) :
    Option Word → ResolveError → Prop where
  /-- None has the index. -/
  | noIndex {index : Word} (h : ∀ s ∈ sidecars, s.index ≠ index) :
    Refuses sidecars slot hash (some index) (.blobMissing slot hash)
  /-- The first one that has the index does not have the hash. -/
  | otherHash {index : Word} {earlier later : List BlobSidecar} {s : BlobSidecar}
    (hsplit : sidecars = earlier ++ s :: later) (hearlier : ∀ t ∈ earlier, t.index ≠ index)
    (hindex : s.index = index) (hhash : s.versionedHash ≠ hash) :
    Refuses sidecars slot hash (some index) (.blobMismatch slot index hash)
  /-- None has the hash. -/
  | noHash (h : ∀ s ∈ sidecars, s.versionedHash ≠ hash) :
    Refuses sidecars slot hash none (.blobMissing slot hash)

/-- The sidecar that is taken for a hash, with an index or without. -/
def chosen (sidecars : List BlobSidecar) (slot : Word) (wanted : Hash × Option Word) :
    Except ResolveError BlobSidecar :=
  match wanted.2 with
  | some index => sidecarAt sidecars slot wanted.1 index
  | none => sidecarOf sidecars slot wanted.1

section
variable {sidecars : List BlobSidecar} {slot : Word} {w : Hash × Option Word}
  {wanted : List (Hash × Option Word)} {blobs found : BlobMap} {e : ResolveError}

theorem selectBlobs_cons : selectBlobs sidecars slot blobs (w :: wanted) =
    match chosen sidecars slot w with
    | .error e => .error e
    | .ok s => selectBlobs sidecars slot (blobs.set w.1 s.blob) wanted := rfl

/-- The sidecar that is taken is one of the slot, and has the hash. -/
theorem of_chosen {s : BlobSidecar} (h : chosen sidecars slot w = .ok s) :
    s ∈ sidecars ∧ s.versionedHash = w.1 := by
  rw [chosen] at h
  split at h
  · rw [sidecarAt] at h
    split at h
    · cases h
    · rename_i hfind
      split at h
      · rename_i hhash
        cases h
        exact ⟨List.mem_of_find?_eq_some hfind, hhash⟩
      · cases h
  · rw [sidecarOf] at h
    split at h
    · cases h
    · rename_i hfind
      cases h
      exact ⟨List.mem_of_find?_eq_some hfind, by simpa using List.find?_some hfind⟩

/-- By its index, a hash is refused if no sidecar has the index, or the first one that has it does not
have the hash. -/
theorem sidecarAt_eq_error_iff {hash : Hash} {index : Word} :
    sidecarAt sidecars slot hash index = .error e ↔ Refuses sidecars slot hash (some index) e := by
  rw [sidecarAt]
  cases hfind : sidecars.find? (·.index = index) with
  | none =>
    have hnone : ∀ s ∈ sidecars, s.index ≠ index := by simpa using hfind
    refine ⟨fun h => ?_, fun h => ?_⟩
    · cases h
      exact .noIndex hnone
    · cases h with
      | noIndex => rfl
      | @otherHash _ earlier _ s hsplit _ hindex =>
        exact absurd hindex (hnone s (hsplit ▸ List.mem_append_right earlier List.mem_cons_self))
  | some s =>
    obtain ⟨hs, earlier, later, hsplit, hearlier⟩ := List.find?_eq_some_iff_append.1 hfind
    have hindex : s.index = index := of_decide_eq_true hs
    refine ⟨fun h => ?_, fun h => ?_⟩
    · by_cases hhash : s.versionedHash = hash
      · simp only [if_pos hhash] at h
        cases h
      · simp only [if_neg hhash, hindex] at h
        cases h
        exact .otherHash hsplit (fun t ht => by simpa using hearlier t ht) hindex hhash
    · cases h with
      | noIndex h => exact absurd hindex (h s (List.mem_of_find?_eq_some hfind))
      | @otherHash _ earlier' later' t hsplit' hearlier' hindex' hhash =>
        -- Both are the first sidecar with the index.
        have hfirst : sidecars.find? (·.index = index) = some t :=
          List.find?_eq_some_iff_append.2 ⟨decide_eq_true hindex', earlier', later', hsplit',
            fun u hu => by simpa using hearlier' u hu⟩
        cases hfind.symm.trans hfirst
        simp only [if_neg hhash, hindex]

/-- By itself, a hash is refused if no sidecar has it. -/
theorem sidecarOf_eq_error_iff {hash : Hash} :
    sidecarOf sidecars slot hash = .error e ↔ Refuses sidecars slot hash none e := by
  rw [sidecarOf]
  cases hfind : sidecars.find? (·.versionedHash = hash) with
  | none =>
    refine ⟨fun h => ?_, fun h => ?_⟩
    · cases h
      exact .noHash (by simpa using hfind)
    · cases h
      rfl
  | some s =>
    have hhash : s.versionedHash = hash := by simpa using List.find?_some hfind
    refine ⟨fun h => ?_, fun h => ?_⟩
    · cases h
    · cases h with
      | noHash h => exact absurd hhash (h s (List.mem_of_find?_eq_some hfind))

/-- **A hash is refused for one of three reasons.** -/
theorem chosen_eq_error_iff :
    chosen sidecars slot w = .error e ↔ Refuses sidecars slot w.1 w.2 e := by
  obtain ⟨hash, index?⟩ := w
  cases index? with
  | none => exact sidecarOf_eq_error_iff
  | some index => exact sidecarAt_eq_error_iff

/-- What is not refused is taken. -/
theorem exists_chosen (h : ∀ e, ¬ Refuses sidecars slot w.1 w.2 e) :
    ∃ s, chosen sidecars slot w = .ok s := by
  cases hchosen : chosen sidecars slot w with
  | ok s => exact ⟨s, rfl⟩
  | error e => exact absurd (chosen_eq_error_iff.1 hchosen) (h e)

/-! ## Many hashes -/

/-- The hash at a place is refused. -/
def RefusesAt (sidecars : List BlobSidecar) (slot : Word) (wanted : List (Hash × Option Word))
    (i : Nat) (e : ResolveError) : Prop :=
  ∃ w, wanted[i]? = some w ∧ Refuses sidecars slot w.1 w.2 e

theorem refusesAt_zero : RefusesAt sidecars slot (w :: wanted) 0 e ↔ Refuses sidecars slot w.1 w.2 e :=
  ⟨fun ⟨_, hw, h⟩ => Option.some.inj hw ▸ h, fun h => ⟨w, rfl, h⟩⟩

theorem refusesAt_succ {i : Nat} :
    RefusesAt sidecars slot (w :: wanted) (i + 1) e ↔ RefusesAt sidecars slot wanted i e := Iff.rfl

/-- **The error is that of the first hash that is refused.** -/
theorem selectBlobs_eq_error_iff : selectBlobs sidecars slot blobs wanted = .error e ↔
    ∃ i, RefusesAt sidecars slot wanted i e ∧
      ∀ j < i, ∀ e', ¬ RefusesAt sidecars slot wanted j e' := by
  induction wanted generalizing blobs with
  | nil => exact ⟨nofun, fun ⟨_, ⟨_, hw, _⟩, _⟩ => absurd hw nofun⟩
  | cons w wanted ih =>
    rw [selectBlobs_cons]
    cases hchosen : chosen sidecars slot w with
    | error e₀ =>
      have hrefused := chosen_eq_error_iff.1 hchosen
      constructor
      · intro h
        cases h
        exact ⟨0, refusesAt_zero.2 hrefused, fun j hj => absurd hj (Nat.not_lt_zero j)⟩
      · rintro ⟨i, hi, hfirst⟩
        cases i with
        | zero =>
          have hsame := hchosen.symm.trans (chosen_eq_error_iff.2 (refusesAt_zero.1 hi))
          exact congrArg Except.error (Except.error.inj hsame)
        | succ i => exact absurd (refusesAt_zero.2 hrefused) (hfirst 0 (Nat.succ_pos i) e₀)
    | ok s =>
      have htaken : ∀ e', ¬ RefusesAt sidecars slot (w :: wanted) 0 e' := fun e' h =>
        absurd (hchosen.symm.trans (chosen_eq_error_iff.2 (refusesAt_zero.1 h))) nofun
      refine ih.trans ⟨fun ⟨i, hi, hfirst⟩ => ?_, fun ⟨i, hi, hfirst⟩ => ?_⟩
      · refine ⟨i + 1, refusesAt_succ.2 hi, fun j hj e' => ?_⟩
        cases j with
        | zero => exact htaken e'
        | succ j => exact hfirst j (Nat.lt_of_succ_lt_succ hj) e'
      · cases i with
        | zero => exact absurd hi (htaken e)
        | succ i => exact ⟨i, hi, fun j hj => hfirst (j + 1) (Nat.succ_lt_succ hj)⟩

/-- There is an error if any hash is refused. -/
theorem exists_selectBlobs_error_iff : (∃ e, selectBlobs sidecars slot blobs wanted = .error e) ↔
    ∃ i e, RefusesAt sidecars slot wanted i e := by
  constructor
  · rintro ⟨e, h⟩
    obtain ⟨i, hi, -⟩ := selectBlobs_eq_error_iff.1 h
    exact ⟨i, e, hi⟩
  · intro h
    classical
    obtain ⟨e, he⟩ := Nat.find_spec h
    exact ⟨e, selectBlobs_eq_error_iff.2
      ⟨Nat.find h, he, fun j hj e' hj' => Nat.find_min h hj ⟨e', hj'⟩⟩⟩

/-! ## The blobs -/

/-- A map with one blob for each of the hashes, each from a sidecar under its hash. -/
structure BlobMap.IsMapOf (sidecars : List BlobSidecar) (hashes : List Hash) (blobs : BlobMap) :
    Prop where
  nodup : (blobs.map (·.1)).Nodup
  keys : ∀ hash, hash ∈ blobs.map (·.1) ↔ hash ∈ hashes
  blob : ∀ b ∈ blobs, ∃ s ∈ sidecars, s.versionedHash = b.1 ∧ s.blob = b.2

theorem BlobMap.isMapOf_nil : BlobMap.IsMapOf sidecars [] [] := ⟨.nil, fun _ => Iff.rfl, nofun⟩

/-- A hash that is set comes last, and only there. -/
theorem BlobMap.map_fst_set (hash : Hash) (blob : Blob) :
    (blobs.set hash blob).map (·.1) = (blobs.map (·.1)).filter (· ≠ hash) ++ [hash] := by
  rw [set, List.map_append, List.filter_map]
  rfl

/-- Setting the blob of one more hash. -/
theorem BlobMap.IsMapOf.set {hashes : List Hash} {s : BlobSidecar}
    (h : BlobMap.IsMapOf sidecars hashes blobs) (hs : s ∈ sidecars) :
    BlobMap.IsMapOf sidecars (hashes ++ [s.versionedHash]) (blobs.set s.versionedHash s.blob) where
  nodup := by
    rw [map_fst_set]
    refine (h.nodup.filter _).append (List.nodup_singleton _) fun hash hhash hlast => ?_
    exact of_decide_eq_true (List.mem_filter.1 hhash).2 (List.mem_singleton.1 hlast)
  keys hash := by
    rw [map_fst_set, List.mem_append, List.mem_append, List.mem_filter, h.keys,
      List.mem_singleton]
    by_cases hlast : hash = s.versionedHash
    · exact ⟨fun _ => .inr hlast, fun _ => .inr hlast⟩
    · exact or_congr_left ⟨And.left, fun hhash => ⟨hhash, decide_eq_true hlast⟩⟩
  blob b hb := by
    rcases List.mem_append.1 hb with hb | hb
    · exact h.blob b (List.mem_filter.1 hb).1
    · rw [List.mem_singleton.1 hb]
      exact ⟨s, hs, rfl, rfl⟩

/-- There is a blob for each of the hashes. -/
theorem BlobMap.IsMapOf.lookup {hashes : List Hash} (h : BlobMap.IsMapOf sidecars hashes blobs)
    {hash : Hash} (hhash : hash ∈ hashes) :
    ∃ blob, List.lookup hash blobs = some blob ∧
      ∃ s ∈ sidecars, s.versionedHash = hash ∧ s.blob = blob := by
  obtain ⟨⟨_, blob⟩, hmem, rfl⟩ := List.mem_map.1 ((h.keys hash).2 hhash)
  cases hlookup : List.lookup _ blobs with
  | none =>
    have hnone := List.lookup_eq_none_iff.1 hlookup _ hmem
    simp at hnone
  | some blob' =>
    obtain ⟨_, _, hsplit, -⟩ := List.lookup_eq_some_iff.1 hlookup
    exact ⟨blob', rfl, h.blob _ (hsplit ▸ List.mem_append_right _ List.mem_cons_self)⟩

/-- **If no hash is refused, the blobs are those of the hashes.** -/
theorem isMapOf_of_selectBlobs {hashes : List Hash}
    (h : selectBlobs sidecars slot blobs wanted = .ok found)
    (hblobs : BlobMap.IsMapOf sidecars hashes blobs) :
    BlobMap.IsMapOf sidecars (hashes ++ wanted.map (·.1)) found := by
  induction wanted generalizing blobs hashes with
  | nil =>
    cases h
    rwa [List.map_nil, List.append_nil]
  | cons w wanted ih =>
    rw [selectBlobs_cons] at h
    cases hchosen : chosen sidecars slot w with
    | error e =>
      rw [hchosen] at h
      exact absurd h nofun
    | ok s =>
      rw [hchosen] at h
      obtain ⟨hs, hhash⟩ := of_chosen hchosen
      have hset := hblobs.set hs
      rw [hhash] at hset
      rw [List.map_cons, List.append_cons]
      exact ih h hset

/-! ## By index and by hash -/

/-- Sidecars that share a hash carry the same blob. -/
def OneBlobPerHash (sidecars : List BlobSidecar) : Prop :=
  ∀ s ∈ sidecars, ∀ t ∈ sidecars, s.versionedHash = t.versionedHash → s.blob = t.blob

/-- Whatever is found for a hash, with an index or without, something is found by the hash alone. -/
theorem exists_chosen_byHash {s : BlobSidecar} (h : chosen sidecars slot w = .ok s) :
    ∃ t, chosen sidecars slot (w.1, none) = .ok t := by
  obtain ⟨hs, hhash⟩ := of_chosen h
  refine exists_chosen fun e hrefused => ?_
  cases hrefused with
  | noHash hnone => exact hnone s hs hhash

/-- **What is found by index is found by hash**, and it is the same unless sidecars share a hash and
differ. -/
theorem selectBlobs_byHash (h : selectBlobs sidecars slot blobs wanted = .ok found) :
    ∃ found', selectBlobs sidecars slot blobs (wanted.map fun w => (w.1, none)) = .ok found' ∧
      (OneBlobPerHash sidecars → found' = found) := by
  -- The blobs that were found before are the same only under the condition, so they are kept apart.
  suffices hany : ∀ blobs', ∃ found',
      selectBlobs sidecars slot blobs' (wanted.map fun w => (w.1, none)) = .ok found' ∧
        (OneBlobPerHash sidecars → blobs' = blobs → found' = found) by
    obtain ⟨found', hfound', hsame⟩ := hany blobs
    exact ⟨found', hfound', fun hone => hsame hone rfl⟩
  induction wanted generalizing blobs with
  | nil =>
    cases h
    exact fun blobs' => ⟨blobs', rfl, fun _ => id⟩
  | cons w wanted ih =>
    intro blobs'
    rw [selectBlobs_cons] at h
    cases hchosen : chosen sidecars slot w with
    | error e =>
      rw [hchosen] at h
      exact absurd h nofun
    | ok s =>
      rw [hchosen] at h
      obtain ⟨t, ht⟩ := exists_chosen_byHash hchosen
      obtain ⟨found', hfound', hsame⟩ := ih h (blobs'.set w.1 t.blob)
      refine ⟨found', ?_, fun hone hblobs => hsame hone ?_⟩
      · rw [List.map_cons, selectBlobs_cons, ht]
        exact hfound'
      · obtain ⟨hs, hhash⟩ := of_chosen hchosen
        obtain ⟨ht, hhash'⟩ := of_chosen ht
        rw [hblobs, hone t ht s hs (hhash'.trans hhash.symm)]

end

/-- The index at which the blob of a hash has to be, if there is an index for each hash. -/
def indexAt? (hashes : List Hash) (indices : List Word) (i : Nat) : Option Word :=
  if indices.length = hashes.length then indices[i]? else none

section
variable {hashes : List Hash} {indices : List Word}

theorem map_fst_withIndices (hashes : List Hash) (indices : List Word) :
    (withIndices hashes indices).map (·.1) = hashes := by
  rw [withIndices]
  split
  · rename_i hlength
    rw [← List.unzip_fst, List.unzip_zip_left]
    simp [hlength]
  · simp [Function.comp_def]

/-- Blobs that are selected for hashes are the blobs of these. -/
theorem isMapOf_withIndices {sidecars : List BlobSidecar} {slot : Word} {found : BlobMap}
    (h : selectBlobs sidecars slot [] (withIndices hashes indices) = .ok found) :
    BlobMap.IsMapOf sidecars hashes found := by
  have hmap := isMapOf_of_selectBlobs h BlobMap.isMapOf_nil
  rwa [List.nil_append, map_fst_withIndices] at hmap

theorem withIndices_nil_left (indices : List Word) : withIndices [] indices = [] := by
  rw [withIndices, List.zip_nil_left, List.map_nil, ite_self]

theorem withIndices_nil_right (hashes : List Hash) :
    withIndices hashes [] = hashes.map fun hash => (hash, none) := by
  rw [withIndices]
  split
  · rename_i hlength
    rw [List.eq_nil_of_length_eq_zero hlength.symm]
    rfl
  · rfl

/-- Without their indices, hashes are looked for as if there were none. -/
theorem map_withIndices (hashes : List Hash) (indices : List Word) :
    ((withIndices hashes indices).map fun w => (w.1, none)) = withIndices hashes [] := by
  have hmap : ((withIndices hashes indices).map fun w => (w.1, (none : Option Word))) =
      ((withIndices hashes indices).map (·.1)).map fun hash => (hash, none) := by
    rw [List.map_map]
    rfl
  rw [hmap, map_fst_withIndices, withIndices_nil_right]

theorem getElem?_withIndices (hashes : List Hash) (indices : List Word) (i : Nat) :
    (withIndices hashes indices)[i]? =
      hashes[i]?.map fun hash => (hash, indexAt? hashes indices i) := by
  rw [withIndices, indexAt?]
  split
  · rename_i hlength
    cases hhash : hashes[i]? with
    | none =>
      refine List.getElem?_eq_none_iff.2 ?_
      rw [List.length_zip]
      exact Nat.le_trans (Nat.min_le_left _ _) (List.getElem?_eq_none_iff.1 hhash)
    | some hash =>
      have hindices : i < indices.length := hlength ▸ (List.getElem?_eq_some_iff.1 hhash).1
      refine List.getElem?_zip_eq_some.2 ⟨hhash, ?_⟩
      rw [List.getElem?_map, List.getElem?_eq_getElem hindices]
      rfl
  · exact List.getElem?_map

end

/-- The hash at a place is refused. -/
def RefusesHashAt (sidecars : List BlobSidecar) (slot : Word) (hashes : List Hash)
    (indices : List Word) (i : Nat) (e : ResolveError) : Prop :=
  ∃ hash, hashes[i]? = some hash ∧ Refuses sidecars slot hash (indexAt? hashes indices i) e

theorem refusesAt_withIndices {sidecars : List BlobSidecar} {slot : Word} {hashes : List Hash}
    {indices : List Word} {i : Nat} {e : ResolveError} :
    RefusesAt sidecars slot (withIndices hashes indices) i e ↔
      RefusesHashAt sidecars slot hashes indices i e := by
  simp only [RefusesAt, getElem?_withIndices, Option.map_eq_some_iff]
  exact ⟨fun ⟨_, ⟨hash, hhash, hw⟩, h⟩ => ⟨hash, hhash, by rwa [← hw] at h⟩,
    fun ⟨hash, hhash, h⟩ => ⟨_, ⟨hash, hhash, rfl⟩, h⟩⟩

/-! ## Blobs of a slot -/

section
variable {σ : Type} {source : BlobSource σ} {time slot : Word} {sidecars : List BlobSidecar}
  {s : σ × BlobMemo}

/-- Once the slot is known, the blobs are selected from its sidecars. -/
theorem step_fetchBlobs {s₁ : σ × BlobMemo} {hashes : List Hash} {indices : List Word}
    (hsome : hashes.isEmpty = false) (hslot : (slotOf source time).step s = (.ok slot, s₁)) :
    (fetchBlobs source time hashes indices).step s =
      match (sidecarsOf source slot).step s₁ with
      | (.ok sidecars, s₂) => (selectBlobs sidecars slot [] (withIndices hashes indices), s₂)
      | (.error e, s₂) => (.error e, s₂) := by
  rw [fetchBlobs, hsome]
  simp only [Bool.false_eq_true, ↓reduceIte, Effect.step_bind, hslot]
  rcases (sidecarsOf source slot).step s₁ with ⟨e | sidecars, s₂⟩
  · rfl
  · simp only
    cases selectBlobs sidecars slot [] (withIndices hashes indices) <;> rfl

/-- In the given state, the time is found to be in the slot, and the slot to have these sidecars:
what is not known is asked for, and the node answers. -/
def BlobSource.Serves (source : BlobSource σ) (time slot : Word) (sidecars : List BlobSidecar)
    (s : σ × BlobMemo) : Prop :=
  ∃ s₁ s₂, (slotOf source time).step s = (.ok slot, s₁) ∧
    (sidecarsOf source slot).step s₁ = (.ok sidecars, s₂)

/-- Blobs are selected from the sidecars of their slot. -/
theorem BlobSource.Serves.fetchBlobs (h : source.Serves time slot sidecars s) (hashes : List Hash)
    (indices : List Word) :
    ((BatchInbox.fetchBlobs source time hashes indices).step s).1 =
      selectBlobs sidecars slot [] (withIndices hashes indices) := by
  obtain ⟨s₁, s₂, hslot, hsidecars⟩ := h
  cases hempty : hashes.isEmpty with
  | true =>
    rw [List.isEmpty_iff.1 hempty, withIndices_nil_left]
    rfl
  | false => rw [step_fetchBlobs hempty hslot, hsidecars]

/-- **Blobs are selected by their hashes**, from the sidecars of the slot of a time:

* what is given are the blobs of all the hashes, each under its hash and from a sidecar with it;
* the look-up fails with the error of the first hash that is refused, and does not fail if there is
  none;
* if indices have led to blobs, then the hashes alone do as well, in all of the slot, and to the same
  ones unless sidecars share a hash and differ. -/
theorem fetchBlobs_selects (h : source.Serves time slot sidecars s) (hashes : List Hash)
    (indices : List Word) :
    let r := ((fetchBlobs source time hashes indices).step s).1
    (∀ found, r = .ok found → BlobMap.IsMapOf sidecars hashes found) ∧
      ((∃ e, r = .error e) ↔ ∃ i e, RefusesHashAt sidecars slot hashes indices i e) ∧
      (∀ e, r = .error e ↔ ∃ i, RefusesHashAt sidecars slot hashes indices i e ∧
        ∀ j < i, ∀ e', ¬ RefusesHashAt sidecars slot hashes indices j e') ∧
      (indices.length = hashes.length → ∀ found, r = .ok found →
        ∀ time' s', source.Serves time' slot sidecars s' →
          ∃ found', ((fetchBlobs source time' hashes []).step s').1 = .ok found' ∧
            (OneBlobPerHash sidecars → found' = found)) := by
  intro r
  have hr : r = selectBlobs sidecars slot [] (withIndices hashes indices) :=
    h.fetchBlobs hashes indices
  simp only [hr, ← refusesAt_withIndices]
  refine ⟨fun found => isMapOf_withIndices, exists_selectBlobs_error_iff,
    fun e => selectBlobs_eq_error_iff, fun _ found hfound time' s' h' => ?_⟩
  rw [h'.fetchBlobs, ← map_withIndices hashes indices]
  exact selectBlobs_byHash hfound

end

/-! ### An example

A slot in which two sidecars have the same index, two have the same hash, and none is at the place that
its index says. -/

/-- A sidecar without a blob to speak of. -/
def zeroSidecar (index : Word) (commitment : Bytes) : BlobSidecar :=
  ⟨index, commitment, BytesN.zero 131072⟩

/-- The sidecars of the first slot. -/
def shuffledSidecars : List BlobSidecar :=
  [zeroSidecar 7 [1], zeroSidecar 3 [2], zeroSidecar 7 [2]]

/-- A beacon node with them, and none in the other slots. -/
def shuffledNode : BlobSource Unit where
  timing := return ⟨24, 12⟩
  sidecars slot := return if slot = 0 then shuffledSidecars else []

/-- Sidecars with the same blob agree. -/
theorem oneBlobPerHash_shuffledSidecars : OneBlobPerHash shuffledSidecars := by
  have hzero : ∀ s ∈ shuffledSidecars, s.blob = BytesN.zero 131072 := by
    simp [shuffledSidecars, zeroSidecar]
  intro s hs t ht _
  rw [hzero s hs, hzero t ht]

/-- Repeated hashes are found by index and by hash.  The second hash is not found at index 7, as the
first sidecar with this index has the other one. -/
theorem fetchBlobs_selects_shuffled :
    let hash₁ := (zeroSidecar 7 [1]).versionedHash
    let hash₂ := (zeroSidecar 3 [2]).versionedHash
    let look (hashes : List Hash) (indices : List Word) :=
      ((fetchBlobs shuffledNode 35 hashes indices).step ((), .empty)).1
    (∃ found, look [hash₂, hash₁, hash₂] [3, 7, 3] = .ok found ∧
      BlobMap.IsMapOf shuffledSidecars [hash₂, hash₁, hash₂] found ∧
      look [hash₂, hash₁, hash₂] [] = .ok found) ∧
    look [hash₂] [7] = .error (.blobMismatch 0 7 hash₂) := by
  intro hash₁ hash₂ look
  have hserves : shuffledNode.Serves 35 0 shuffledSidecars ((), .empty) := ⟨_, _, rfl, rfl⟩
  have hother : (zeroSidecar 7 [1]).versionedHash ≠ hash₂ := by decide +kernel
  constructor
  · obtain ⟨hmap, -, -, hsame⟩ := fetchBlobs_selects hserves [hash₂, hash₁, hash₂] [3, 7, 3]
    have hisOk : (look [hash₂, hash₁, hash₂] [3, 7, 3]).isOk = true := by decide +kernel
    cases hlook : look [hash₂, hash₁, hash₂] [3, 7, 3] with
    | error e => exact absurd ((congrArg Except.isOk hlook).symm.trans hisOk) nofun
    | ok found =>
      obtain ⟨found', hfound', heq⟩ := hsame rfl found hlook 35 _ hserves
      exact ⟨found, rfl, hmap found hlook, heq oneBlobPerHash_shuffledSidecars ▸ hfound'⟩
  · obtain ⟨-, -, herror, -⟩ := fetchBlobs_selects hserves [hash₂] [7]
    have hfirst : shuffledSidecars = [] ++ zeroSidecar 7 [1] :: shuffledSidecars.tail := rfl
    exact (herror _).2 ⟨0, ⟨hash₂, rfl, .otherHash hfirst nofun rfl hother⟩,
      fun j hj => absurd hj (Nat.not_lt_zero j)⟩

end BatchInbox
