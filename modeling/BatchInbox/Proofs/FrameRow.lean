import BatchInbox.Proofs.Frame

/-!
# Frames in a row

The frames of a payload stand one behind the other, and each says where it ends.  So a payload that is
accepted may be continued: what follows it is read as if it were a payload of its own, and if that is
malformed, the whole payload is, for the same reason.

A payload that is cut short ends between two frames or within one.  In the first case it holds the
frames in front of the cut.  In the second a frame lacks some bytes, and this is what the reader says,
wherever the frame is cut: it never takes the bytes that are left for a frame that is too large, or for
one with a malformed end.

## What is here

* `Frame.readNext_of_isCutShort` — a frame that lacks some bytes.
* `Frame.EndsBetween` — a payload that ends between two frames; `exists_cut` is one that does not.
* `Frame.decodeAll_row` — what is read from a payload that is continued, or cut short.
-/

set_option autoImplicit false
namespace BatchInbox
namespace Frame

/-! ## Cuts -/

/-- A frame that is cut short lacks something, wherever the cut falls. -/
theorem readNext_of_isCutShort {f : Frame} (h : f.Fits) {cut : Bytes} (hcut : cut.IsCutShort f.encode) :
    readNext cut = .error .incomplete := by
  rw [← bytes_layout] at hcut
  obtain ⟨error, herror⟩ := Layout.exists_cutAt hcut
  have hmem := herror.error_mem
  simp only [layout, List.map_cons, List.map_nil, List.mem_cons, List.not_mem_nil, or_false,
    or_self] at hmem
  rw [(delimits_readNext h).cut herror, hmem]

/-- The payload ends between two of the frames. -/
def EndsBetween (frames : List Frame) (cut : Bytes) : Prop :=
  ∃ done, done <+: frames ∧ cut = encodeAll done

/-- A row that is cut short is a shorter row, and perhaps a part of one more frame. -/
theorem exists_cut {frames : List Frame} {cut : Bytes} (h : cut.IsCutShort (frames.flatMap encode)) :
    ∃ done f part, done ++ [f] <+: frames ∧ cut = done.flatMap encode ++ part ∧
      part.IsCutShort f.encode := by
  induction frames generalizing cut with
  | nil => exact absurd h.length_lt (Nat.not_lt_zero _)
  | cons f frames ih =>
    rw [List.flatMap_cons] at h
    rcases h.of_append with hpart | ⟨cut, rfl, hcut⟩
    · exact ⟨[], f, cut, by simp, by simp, hpart⟩
    · obtain ⟨done, g, part, hfront, rfl, hpart⟩ := ih hcut
      exact ⟨f :: done, g, part, by simpa using hfront, by simp, hpart⟩

/-- A payload that ends within a frame lacks something. -/
theorem decodeAll_of_not_endsBetween {frames : List Frame} (h : ∀ f ∈ frames, f.Fits) {cut : Bytes}
    (hcut : cut <+: encodeAll frames) (hne : cut ≠ []) (hwithin : ¬ EndsBetween frames cut) :
    decodeAll cut = .error .incomplete := by
  have hshort : cut.IsCutShort ([version] ++ frames.flatMap encode) :=
    Bytes.isCutShort_iff.2 ⟨hcut, fun heq => hwithin ⟨frames, List.prefix_rfl, heq⟩⟩
  -- the version byte is there, so it is the row behind it that is cut short
  rcases hshort.of_append with hversion | ⟨row, rfl, hrow⟩
  · have := hversion.length_lt
    exact absurd (List.length_eq_zero_iff.1 (by simpa using this)) hne
  · obtain ⟨done, f, part, hdone, rfl, hpart⟩ := exists_cut hrow
    have hmem : ∀ g ∈ done ++ [f], g.Fits := fun g hg => h g (hdone.subset hg)
    rw [List.forall_mem_append] at hmem
    have hne : part ≠ [] := by
      rintro rfl
      exact hwithin ⟨done, (List.prefix_append ..).trans hdone, by simp [encodeAll]⟩
    have hnext := readNext_of_isCutShort (hmem.2 f List.mem_cons_self) hpart
    have happend := decodeAll_append hmem.1 part
    rw [decodeAll_version_cons, row_of_error hne hnext] at happend
    exact happend

/-- **Payloads that are continued, and payloads that are cut short.**  What follows the frames of a
payload is read as if it were a payload of its own, and its frames come behind, or its error is that of
the whole.  A payload that is cut short behind its version byte lacks something exactly if it does not
end between two frames. -/
theorem decodeAll_row {payload : Bytes} {frames : List Frame} (h : decodeAll payload = .ok frames) :
    (payload ≠ [] → ∀ rest,
      decodeAll (payload ++ rest) = (decodeAll (version :: rest)).map (frames ++ ·)) ∧
    ∀ cut : Bytes, cut <+: payload → cut ≠ [] →
      (decodeAll cut = .error .incomplete ↔ ¬ EndsBetween frames cut) := by
  constructor
  · intro hne rest
    obtain ⟨hfits, rfl⟩ := eq_encodeAll_of_decodeAll hne h
    exact decodeAll_append hfits rest
  · intro cut hcut hne
    have hpayload : payload ≠ [] := fun hnil => hne (List.prefix_nil.1 (hnil ▸ hcut))
    obtain ⟨hfits, rfl⟩ := eq_encodeAll_of_decodeAll hpayload h
    refine ⟨?_, decodeAll_of_not_endsBetween hfits hcut hne⟩
    rintro hread ⟨done, hdone, rfl⟩
    rw [decodeAll_encodeAll fun f hf => hfits f (hdone.subset hf)] at hread
    exact absurd hread nofun

/-- The payload is continued by itself, or by a lone byte, or it is cut short in the header of its second
frame. -/
theorem decodeAll_row_twoFrames :
    decodeAll (encodeAll twoFrames) = .ok twoFrames ∧
      decodeAll (encodeAll twoFrames ++ twoFrames.flatMap encode) = .ok (twoFrames ++ twoFrames) ∧
      decodeAll (encodeAll twoFrames ++ [7]) = .error .incomplete ∧
      decodeAll ((encodeAll twoFrames).take 30) = .error .incomplete := by
  have hread : decodeAll (encodeAll twoFrames) = .ok twoFrames := decodeAll_encodeAll (by decide)
  obtain ⟨hcontinued, hcut⟩ := decodeAll_row hread
  refine ⟨hread, ?_, hcontinued (by decide) [7], (hcut _ (List.take_prefix ..) (by decide)).2 ?_⟩
  · have happend := hcontinued (by decide) (twoFrames.flatMap encode)
    rw [← encodeAll, hread] at happend
    exact happend
  · rintro ⟨done, hdone, heq⟩
    have hlengths : ∀ n ≤ 2, (encodeAll (twoFrames.take n)).length ≠ 30 := by decide
    refine hlengths done.length hdone.length_le ?_
    rw [← List.prefix_iff_eq_take.1 hdone, ← heq]
    decide

end Frame
end BatchInbox
