import BatchInbox.Channel

/-!
# A channel puts its frames in order

The frames of a channel may arrive in any order.  What an open channel knows is therefore a matter
of which frames have arrived: it holds just these, in the order of their numbers, and it knows the
last number if the last frame is among them.  It is complete when nothing is missing, and then its
data is what the batcher cut.

## What is here

* `Frame.ofChunks` — the frames that a batcher cuts a channel into; `Frame.IsWhole` says what
  matters about them.
* `OpenChannel.Holds` — an open channel has taken just these frames.
* `Holds.add` — the step: a missing frame is taken.
* `Holds.isComplete_iff`, `Holds.close_eq` — when the channel closes, and with what.
-/

set_option autoImplicit false
namespace BatchInbox

/-! ## The frames of a channel -/

namespace Frame

/-- The frames with the given data, numbered from zero.  Only the last one says that it is. -/
def ofChunks (id : ChannelId) (chunks : List Bytes) : List Frame :=
  chunks.mapIdx fun i data => ⟨id, i.toUInt16, data, decide (i + 1 = chunks.length)⟩

/-- These are all frames of a channel, in their order. -/
structure IsWhole (id : ChannelId) (frames : List Frame) : Prop where
  channel_eq : ∀ f ∈ frames, f.channel = id
  ascending : frames.Pairwise (·.number < ·.number)
  number_lt : ∀ f ∈ frames, f.number.toNat < frames.length
  isLast_iff : ∀ f ∈ frames, f.isLast = true ↔ f.number.toNat + 1 = frames.length
  exists_last : ∃ f ∈ frames, f.isLast = true

@[simp]
theorem length_ofChunks (id : ChannelId) (chunks : List Bytes) :
    (ofChunks id chunks).length = chunks.length :=
  List.length_mapIdx

theorem flatMap_data_ofChunks (id : ChannelId) (chunks : List Bytes) :
    (ofChunks id chunks).flatMap (·.data) = chunks.flatten := by
  have hdata : (ofChunks id chunks).map (·.data) = chunks := by
    refine List.ext_getElem (by simp) fun i h₁ h₂ => ?_
    simp [ofChunks]
  rw [List.flatMap_def, hdata]

/-- A frame has the data of one of the chunks. -/
theorem data_mem_of_mem_ofChunks {id : ChannelId} {chunks : List Bytes} {f : Frame}
    (h : f ∈ ofChunks id chunks) : f.data ∈ chunks := by
  obtain ⟨i, hi, rfl⟩ := List.mem_mapIdx.1 h
  exact List.getElem_mem hi

theorem toNat_toUInt16 {i : Nat} (h : i < 65536) : i.toUInt16.toNat = i := by
  rw [Nat.toUInt16_eq, UInt16.toNat_ofNat']
  exact Nat.mod_eq_of_lt h

/-- The frames of a channel with a number for each are all of it. -/
theorem isWhole_ofChunks {id : ChannelId} {chunks : List Bytes} (hpos : 0 < chunks.length)
    (hmax : chunks.length ≤ 65536) : IsWhole id (ofChunks id chunks) where
  channel_eq f hf := by
    obtain ⟨i, hi, rfl⟩ := List.mem_mapIdx.1 hf
    rfl
  ascending := by
    rw [List.pairwise_iff_getElem]
    intro i j hi hj hij
    rw [length_ofChunks] at hi hj
    simp only [ofChunks, List.getElem_mapIdx, UInt16.lt_iff_toNat_lt]
    rw [toNat_toUInt16 (by omega), toNat_toUInt16 (by omega)]
    exact hij
  number_lt f hf := by
    obtain ⟨i, hi, rfl⟩ := List.mem_mapIdx.1 hf
    rw [length_ofChunks, toNat_toUInt16 (by omega)]
    exact hi
  isLast_iff f hf := by
    obtain ⟨i, hi, rfl⟩ := List.mem_mapIdx.1 hf
    rw [length_ofChunks, toNat_toUInt16 (by omega), decide_eq_true_eq]
  exists_last := by
    have hlast : chunks.length - 1 < chunks.length := by omega
    refine ⟨_, List.mem_mapIdx.2 ⟨chunks.length - 1, hlast, rfl⟩, ?_⟩
    rw [decide_eq_true_eq]
    omega

/-- Two frames of a channel do not share a number. -/
theorem IsWhole.number_ne {id : ChannelId} {frames seen rest : List Frame} {f g : Frame}
    (h : IsWhole id frames) (hperm : (seen ++ f :: rest).Perm frames) (hg : g ∈ seen) :
    g.number ≠ f.number := by
  have hdistinct : frames.Pairwise (·.number ≠ ·.number) :=
    h.ascending.imp fun hlt => UInt16.ne_of_lt hlt
  have := (hperm.pairwise_iff fun hne => hne.symm).2 hdistinct
  exact (List.pairwise_append.1 this).2.2 g hg f List.mem_cons_self

end Frame

namespace OpenChannel

/-! ## Sorting -/

theorem insertFrame_perm (f : Frame) (frames : List Frame) :
    (insertFrame f frames).Perm (f :: frames) := by
  induction frames with
  | nil => exact List.Perm.refl _
  | cons g frames ih =>
    rw [insertFrame]
    split
    · exact List.Perm.refl _
    · exact (ih.cons g).trans (List.Perm.swap f g frames)

theorem pairwise_insertFrame {f : Frame} {frames : List Frame}
    (h : frames.Pairwise (·.number < ·.number)) (hne : ∀ g ∈ frames, g.number ≠ f.number) :
    (insertFrame f frames).Pairwise (·.number < ·.number) := by
  induction frames with
  | nil => exact List.pairwise_singleton ..
  | cons g frames ih =>
    obtain ⟨hg, hframes⟩ := List.pairwise_cons.1 h
    rw [List.forall_mem_cons] at hne
    rw [insertFrame]
    split
    · rename_i hle
      have hfg : f.number < g.number := UInt16.lt_of_le_of_ne hle hne.1.symm
      refine List.pairwise_cons.2 ⟨fun k hk => ?_, h⟩
      rcases List.mem_cons.1 hk with rfl | hk
      · exact hfg
      · exact UInt16.lt_trans hfg (hg k hk)
    · rename_i hle
      refine List.pairwise_cons.2 ⟨fun k hk => ?_, ih hframes hne.2⟩
      rcases List.mem_cons.1 ((insertFrame_perm f frames).mem_iff.1 hk) with rfl | hk
      · exact UInt16.not_le.1 hle
      · exact hg k hk

/-! ## Taking frames -/

/-- A frame does not change when its channel was first seen. -/
theorem firstSeen_of_add {c c' : OpenChannel} {f : Frame} (h : c.add f = .ok c') :
    c'.firstSeen = c.firstSeen := by
  rw [OpenChannel.add] at h
  split at h
  · exact absurd h nofun
  · split at h
    · split at h
      · exact absurd h nofun
      · split at h
        · exact absurd h nofun
        · cases h
          rfl
    · split at h <;> cases h <;> rfl

/-- A channel takes whatever frame it begins with. -/
theorem add_new (first : Word) (f : Frame) : ∃ c, (new first).add f = .ok c := by
  cases hlast : f.isLast <;> simp [OpenChannel.add, new, hlast]

/-- The channel has taken just these frames, in some order. -/
structure Holds (c : OpenChannel) (seen : List Frame) : Prop where
  perm : c.frames.Perm seen
  ascending : c.frames.Pairwise (·.number < ·.number)
  last?_eq_some : ∀ {last}, c.last? = some last → ∃ f ∈ seen, f.isLast = true ∧ f.number = last
  last?_eq_none : c.last? = none → ∀ f ∈ seen, f.isLast = false

theorem holds_new (firstSeen : Word) : (new firstSeen).Holds [] where
  perm := List.Perm.refl _
  ascending := List.Pairwise.nil
  last?_eq_some := nofun
  last?_eq_none := nofun

section
variable {id : ChannelId} {all seen rest : List Frame} {c : OpenChannel}

/-- The last number, once known, is one less than the number of frames. -/
theorem Holds.last_eq (h : c.Holds seen) (hall : Frame.IsWhole id all)
    (hperm : (seen ++ rest).Perm all) {last : UInt16} (hlast : c.last? = some last) :
    last.toNat + 1 = all.length := by
  obtain ⟨f, hf, hisLast, rfl⟩ := h.last?_eq_some hlast
  exact (hall.isLast_iff f (hperm.mem_iff.1 (List.mem_append_left rest hf))).1 hisLast

/-- Once the last number is known, the last frame has arrived, and the number of any other is
smaller. -/
theorem Holds.le_last (h : c.Holds seen) (hall : Frame.IsWhole id all) {f : Frame}
    (hperm : (seen ++ f :: rest).Perm all) {last : UInt16} (hlast : c.last? = some last) :
    f.isLast = false ∧ f.number ≤ last := by
  have hmem : f ∈ all := hperm.mem_iff.1 (by simp)
  have hlength := h.last_eq hall hperm hlast
  obtain ⟨g, hg, -, rfl⟩ := h.last?_eq_some hlast
  constructor
  · rw [← Bool.not_eq_true, hall.isLast_iff f hmem]
    intro heq
    refine hall.number_ne hperm hg ?_
    rw [← UInt16.toNat_inj]
    omega
  · have := hall.number_lt f hmem
    rw [UInt16.le_iff_toNat_le]
    omega

/-- All frames that have arrived have smaller numbers than the last one, so none is thrown away. -/
theorem Holds.filter_lt_eq (h : c.Holds seen) (hall : Frame.IsWhole id all) {f : Frame}
    (hperm : (seen ++ f :: rest).Perm all) (hisLast : f.isLast = true) :
    c.frames.filter (·.number < f.number) = c.frames := by
  rw [List.filter_eq_self]
  intro g hg
  have hseen := h.perm.mem_iff.1 hg
  have hlt := hall.number_lt g (hperm.mem_iff.1 (List.mem_append_left _ hseen))
  have hlength := (hall.isLast_iff f (hperm.mem_iff.1 (by simp))).1 hisLast
  have hne := mt UInt16.toNat_inj.1 (hall.number_ne hperm hseen)
  rw [decide_eq_true_eq, UInt16.lt_iff_toNat_lt]
  omega

/-- **The step.**  An open channel takes a frame that it misses. -/
theorem Holds.add (h : c.Holds seen) (hall : Frame.IsWhole id all) {f : Frame}
    (hperm : (seen ++ f :: rest).Perm all) :
    ∃ c', c.add f = .ok c' ∧ c'.firstSeen = c.firstSeen ∧ c'.Holds (seen ++ [f]) := by
  have hne : ∀ g ∈ c.frames, g.number ≠ f.number := fun g hg =>
    hall.number_ne hperm (h.perm.mem_iff.1 hg)
  have hduplicate : ¬ (c.frames.any (·.number = f.number)) = true := by
    rw [List.any_eq_true]
    rintro ⟨g, hg, heq⟩
    exact hne g hg (of_decide_eq_true heq)
  have hframes : (insertFrame f c.frames).Perm (seen ++ [f]) :=
    ((insertFrame_perm f c.frames).trans (h.perm.cons f)).trans
      (List.perm_append_singleton f seen).symm
  have hascending := pairwise_insertFrame h.ascending hne
  rw [OpenChannel.add, if_neg hduplicate]
  split
  · rename_i last hlast
    obtain ⟨hnotLast, hle⟩ := h.le_last hall hperm hlast
    rw [if_neg (by simp [hnotLast]), if_neg (UInt16.not_lt.2 hle)]
    refine ⟨_, rfl, rfl, hframes, hascending, fun hsome => ?_, fun hnone => ?_⟩
    · obtain ⟨g, hg, hspec⟩ := h.last?_eq_some hsome
      exact ⟨g, List.mem_append_left _ hg, hspec⟩
    · exact absurd (hlast.symm.trans hnone) nofun
  · rename_i hlast
    have hseen := h.last?_eq_none hlast
    split
    · rename_i hisLast
      rw [h.filter_lt_eq hall hperm hisLast]
      refine ⟨_, rfl, rfl, hframes, hascending, fun hsome => ?_, fun hnone => ?_⟩
      · cases hsome
        exact ⟨f, by simp, hisLast, rfl⟩
      · exact absurd hnone nofun
    · rename_i hisLast
      refine ⟨_, rfl, rfl, hframes, hascending, fun hsome => ?_, fun _ => ?_⟩
      · exact absurd (hlast.symm.trans hsome) nofun
      · rw [List.forall_mem_append]
        exact ⟨hseen, by simpa using hisLast⟩

/-- A channel is complete when it misses nothing. -/
theorem Holds.isComplete_iff (h : c.Holds seen) (hall : Frame.IsWhole id all)
    (hperm : (seen ++ rest).Perm all) : c.isComplete = true ↔ rest = [] := by
  have hlength : c.frames.length + rest.length = all.length := by
    rw [h.perm.length_eq, ← List.length_append, hperm.length_eq]
  rw [isComplete]
  cases hlast : c.last? with
  | none =>
    refine iff_of_false (by simp) fun hrest => ?_
    subst hrest
    rw [List.append_nil] at hperm
    obtain ⟨f, hf, hisLast⟩ := hall.exists_last
    rw [h.last?_eq_none hlast f (hperm.mem_iff.2 hf)] at hisLast
    exact absurd hisLast Bool.false_ne_true
  | some last =>
    have := h.last_eq hall hperm hlast
    rw [← List.length_eq_zero_iff]
    simp only [decide_eq_true_eq]
    omega

/-- A channel that misses nothing has its frames in their order. -/
theorem Holds.frames_eq (h : c.Holds seen) (hall : Frame.IsWhole id all) (hperm : seen.Perm all) :
    c.frames = all := by
  refine List.Perm.eq_of_pairwise ?_ h.ascending hall.ascending (h.perm.trans hperm)
  intro f g _ _ hfg hgf
  exact absurd (UInt16.lt_trans hfg hgf) (UInt16.lt_irrefl _)

/-- **What comes out of a channel** is the data that was cut, whatever the order of arrival. -/
theorem Holds.close_eq (h : c.Holds seen) (hall : Frame.IsWhole id all) (hperm : seen.Perm all)
    (closedAt : L1Position) : c.close id closedAt =
      ⟨id, c.firstSeen, closedAt, all.length, all.flatMap (·.data)⟩ := by
  rw [close, h.frames_eq hall hperm]

end

end OpenChannel
end BatchInbox
