import BatchInbox.Frame
import BatchInbox.Proofs.Delimited
import BatchInbox.Proofs.Row

/-!
# Frames are read back from their payload

A frame announces the length of its data, so a reader knows where the next one begins.  There is one
way to write a frame: every byte of its header counts, and its last byte is a zero or a one.  So what
is read was written.

## What is here

* `Frame.delimits_readNext` — the reader of a frame stops where the next one begins.
* `Frame.readNext_eq_ok` — a frame that is read is a frame as it is written.
* `Frame.decodeAll_append`, `decodeAll_encodeAll` — a payload of frames holds those frames.
* `Frame.decodeAll_exact` — payloads that are not empty and rows of frames correspond.
-/

set_option autoImplicit false
namespace BatchInbox
namespace Frame

/-- The data of a frame of legal size can be carried. -/
def Fits (f : Frame) : Prop := f.data.length ≤ maxDataLength

instance (f : Frame) : Decidable f.Fits := inferInstanceAs (Decidable (_ ≤ _))

/-- The parts of a frame.  The data and the byte behind it are one part, since the data is only read if
something follows it. -/
def layout (f : Frame) : Layout Error :=
  [(.incomplete, f.channel.toList), (.incomplete, Bytes.ofNat 2 f.number.toNat),
    (.incomplete, Bytes.ofNat 4 f.data.length),
    (.incomplete, f.data ++ [if f.isLast then 1 else 0])]

theorem bytes_layout (f : Frame) : f.layout.bytes = f.encode := by
  simp [layout, encode]

theorem readData_append {f : Frame} (h : f.Fits) (rest : Bytes) :
    readData f.channel f.number f.data.length (f.data ++ [if f.isLast then 1 else 0] ++ rest) =
      .ok (f, rest) := by
  obtain ⟨channel, number, data, isLast⟩ := f
  have hempty : (data ++ [if isLast then (1 : UInt8) else 0] ++ rest).isEmpty = false := by simp
  have hlen : ¬ maxDataLength < data.length := Nat.not_lt.2 h
  rw [readData, hempty, if_neg (by simp), if_neg hlen, List.append_assoc,
    Bytes.split?_append rfl]
  cases isLast <;> rfl

theorem readData_of_isCutShort {f : Frame} (h : f.Fits) {cut : Bytes}
    (hcut : cut.IsCutShort (f.data ++ [if f.isLast then 1 else 0])) :
    readData f.channel f.number f.data.length cut = .error .incomplete := by
  have hshort := hcut.length_lt
  rw [List.length_append, List.length_singleton] at hshort
  rw [readData]
  split
  · rfl
  · rw [if_neg (Nat.not_lt.2 h)]
    split
    · rfl
    · rfl
    -- there is no room for a byte behind the data
    all_goals
      rename_i hsplit
      obtain ⟨rfl, hlength⟩ := Bytes.split?_eq_some.1 hsplit
      rw [List.length_append, List.length_cons] at hshort
      omega

/-- **The reader of a frame** stops where the next one begins. -/
theorem delimits_readNext {f : Frame} (h : f.Fits) :
    Delimits readNext f.layout fun rest => (f, rest) := by
  have hnumber : (Bytes.ofNat 2 f.number.toNat).toNat.toUInt16 = f.number := by
    rw [Bytes.toNat_ofNat f.number.toNat_lt]
    simp
  have hlength : (Bytes.ofNat 4 f.data.length).toNat = f.data.length := by
    refine Bytes.toNat_ofNat ?_
    simp only [Fits, maxDataLength, Nat.pow_eq] at *
    omega
  have hdata : Delimits (readData f.channel f.number f.data.length)
      [(.incomplete, f.data ++ [if f.isLast then 1 else 0])] fun rest => (f, rest) :=
    .single (readData_append h) fun cut => readData_of_isCutShort h
  have hparts : Delimits (fun bytes => do
      let channel ← BytesN.readFront Error.incomplete 16 bytes
      let number ← channel.2.readFront Error.incomplete 2
      let length ← number.2.readFront Error.incomplete 4
      readData channel.1 number.1.toNat.toUInt16 length.1.toNat length.2)
      f.layout fun rest => (f, rest) := by
    refine (f.channel.delimits_readFront Error.incomplete).bind ?_
    dsimp only
    refine (Bytes.delimits_readFront (Bytes.length_ofNat ..) Error.incomplete).bind ?_
    dsimp only
    refine (Bytes.delimits_readFront (Bytes.length_ofNat ..) Error.incomplete).bind ?_
    simp only [hnumber, hlength]
    exact hdata
  refine hparts.congr fun bytes => ?_
  rw [readNext, BytesN.readFront]
  cases BytesN.split? 16 bytes with
  | none => rfl
  | some read =>
    simp only [bind, Except.bind, Bytes.readFront]
    cases read.2.split? 2 with
    | none => rfl
    | some read' =>
      simp only
      cases read'.2.split? 4 <;> rfl

/-- A frame is read, whatever follows it. -/
theorem readNext_append {f : Frame} (h : f.Fits) (rest : Bytes) :
    readNext (f.encode ++ rest) = .ok (f, rest) := by
  rw [← bytes_layout]
  exact (delimits_readNext h).whole rest

theorem encode_ne_nil (f : Frame) : f.encode ≠ [] := by
  rw [← List.length_pos_iff, length_encode, encodedLength]
  omega

/-! ## What is read was written -/

/-- The data that is read is that of a frame as it is written behind its length. -/
theorem readData_eq_ok {channel : ChannelId} {number : UInt16} {length : Nat} {bytes rest : Bytes}
    {f : Frame} (h : readData channel number length bytes = .ok (f, rest)) :
    f.Fits ∧ f.channel = channel ∧ f.number = number ∧ f.data.length = length ∧
      bytes = f.data ++ [if f.isLast then 1 else 0] ++ rest := by
  rw [readData] at h
  split at h
  · exact absurd h nofun
  · split at h
    · exact absurd h nofun
    · rename_i hmax
      have htaken : ∀ (data : Bytes) (isLast : Bool), data.length = length →
          Fits ⟨channel, number, data, isLast⟩ := by
        rintro data - rfl
        exact Nat.not_lt.1 hmax
      -- only a zero or a one behind the data ends a frame
      split at h
      · exact absurd h nofun
      · exact absurd h nofun
      · rename_i data _ hsplit
        cases h
        obtain ⟨hbytes, hlength⟩ := Bytes.split?_eq_some.1 hsplit
        exact ⟨htaken data false hlength, rfl, rfl, hlength, by simpa using hbytes⟩
      · rename_i data _ hsplit
        cases h
        obtain ⟨hbytes, hlength⟩ := Bytes.split?_eq_some.1 hsplit
        exact ⟨htaken data true hlength, rfl, rfl, hlength, by simpa using hbytes⟩
      · exact absurd h nofun

/-- The frame that is read is a frame as it is written. -/
theorem readNext_eq_ok {bytes rest : Bytes} {f : Frame} (h : readNext bytes = .ok (f, rest)) :
    f.Fits ∧ bytes = f.encode ++ rest := by
  rw [readNext] at h
  split at h
  · exact absurd h nofun
  · rename_i hchannel
    split at h
    · exact absurd h nofun
    · rename_i number _ hnumber
      split at h
      · exact absurd h nofun
      · rename_i length _ hlength
        obtain ⟨hfits, rfl, hf, hdata, rfl⟩ := readData_eq_ok h
        obtain ⟨rfl, hnumberLength⟩ := Bytes.split?_eq_some.1 hnumber
        obtain ⟨rfl, hlengthLength⟩ := Bytes.split?_eq_some.1 hlength
        refine ⟨hfits, ?_⟩
        have hnat : number.toNat.toUInt16.toNat = number.toNat := by
          have := Bytes.toNat_lt hnumberLength
          simp
          omega
        rw [BytesN.eq_append_of_split? hchannel, encode, hf, hnat, Bytes.ofNat_toNat hnumberLength,
          hdata, Bytes.ofNat_toNat hlengthLength]
        simp

/-! ## Rows -/

/-- A frame takes some bytes. -/
theorem takesBytes_readNext : TakesBytes readNext := by
  intro bytes f rest h
  obtain ⟨-, rfl⟩ := readNext_eq_ok h
  have hpos := List.length_pos_iff.2 f.encode_ne_nil
  rw [List.length_append]
  omega

/-- The frames of a payload stand in a row behind its version. -/
theorem decodeAll_version_cons (bytes : Bytes) :
    decodeAll (version :: bytes) = wholeRow (row readNext bytes) := by
  have hloop : readAll [] bytes.length bytes = (wholeRow (row readNext bytes)).map ([] ++ ·) :=
    eq_wholeRow_of_loop readNext (fun _ _ => rfl)
      (fun _ _ bytes => by rw [readAll]; cases readNext bytes <;> rfl) [] bytes.length bytes
  rw [decodeAll, if_pos rfl, hloop]
  cases wholeRow (row readNext bytes) <;> rfl

/-- **A row of frames**, and what follows it. -/
theorem decodeAll_append {frames : List Frame} (h : ∀ f ∈ frames, f.Fits) (rest : Bytes) :
    decodeAll (encodeAll frames ++ rest) = (decodeAll (version :: rest)).map (frames ++ ·) := by
  rw [encodeAll, List.cons_append, decodeAll_version_cons, decodeAll_version_cons,
    row_append takesBytes_readNext fun f hf => readNext_append (h f hf), wholeRow_append]

/-- **A payload of frames holds those frames.** -/
theorem decodeAll_encodeAll {frames : List Frame} (h : ∀ f ∈ frames, f.Fits) :
    decodeAll (encodeAll frames) = .ok frames := by
  simpa [decodeAll, readAll, Except.map] using decodeAll_append h []

theorem readAll_eq_ok {acc frames : List Frame} {rounds : Nat} {bytes : Bytes}
    (h : readAll acc rounds bytes = .ok frames) (hrounds : bytes.length ≤ rounds) :
    ∃ read, frames = acc.reverse ++ read ∧ (∀ f ∈ read, f.Fits) ∧ bytes = read.flatMap encode := by
  induction rounds generalizing acc bytes with
  | zero =>
    cases h
    exact ⟨[], by simp, nofun, List.length_eq_zero_iff.1 (Nat.le_zero.1 hrounds)⟩
  | succ rounds ih =>
    rw [readAll] at h
    split at h
    · rename_i hempty
      cases h
      exact ⟨[], by simp, nofun, List.isEmpty_iff.1 hempty⟩
    · split at h
      · exact absurd h nofun
      · rename_i f rest hnext
        obtain ⟨hf, rfl⟩ := readNext_eq_ok hnext
        have hpos := List.length_pos_iff.2 f.encode_ne_nil
        rw [List.length_append] at hrounds
        obtain ⟨read, rfl, hread, rfl⟩ := ih h (by omega)
        exact ⟨f :: read, by simp, List.forall_mem_cons.2 ⟨hf, hread⟩, List.flatMap_cons.symm⟩

/-- **What is read was written**: a payload that is not empty is the one with the frames that it
holds. -/
theorem eq_encodeAll_of_decodeAll {payload : Bytes} (h : payload ≠ []) {frames : List Frame}
    (hdecode : decodeAll payload = .ok frames) :
    (∀ f ∈ frames, f.Fits) ∧ encodeAll frames = payload := by
  cases payload with
  | nil => exact absurd rfl h
  | cons byte bytes =>
    rw [decodeAll] at hdecode
    split at hdecode
    · rename_i hversion
      obtain ⟨read, rfl, hread, rfl⟩ := readAll_eq_ok hdecode (Nat.le_refl _)
      exact ⟨by simpa using hread, by rw [encodeAll, hversion]⟩
    · exact absurd hdecode nofun

/-- **Payloads and rows of frames correspond**: the frames of a payload are written, frames that are
read are written as they were, and no two payloads hold the same frames, but for the empty one. -/
theorem decodeAll_exact :
    (∀ frames : List Frame, (∀ f ∈ frames, f.Fits) → decodeAll (encodeAll frames) = .ok frames) ∧
    (∀ (payload : Bytes) (frames : List Frame), payload ≠ [] → decodeAll payload = .ok frames →
      (∀ f ∈ frames, f.Fits) ∧ encodeAll frames = payload) ∧
    ∀ (payload payload' : Bytes) (frames : List Frame), payload ≠ [] → payload' ≠ [] →
      decodeAll payload = .ok frames → decodeAll payload' = .ok frames → payload = payload' := by
  refine ⟨fun frames => decodeAll_encodeAll,
    fun payload frames hne => eq_encodeAll_of_decodeAll hne, ?_⟩
  intro payload payload' frames hne hne' h h'
  rw [← (eq_encodeAll_of_decodeAll hne h).2, (eq_encodeAll_of_decodeAll hne' h').2]

/-- The last two frames of a channel, the second one without data. -/
def twoFrames : List Frame :=
  [⟨BytesN.zero 16, 256, [7, 8], false⟩, ⟨BytesN.zero 16, 257, [], true⟩]

theorem decodeAll_exact_twoFrames :
    decodeAll (encodeAll twoFrames) = .ok twoFrames ∧ (encodeAll twoFrames).length = 49 ∧
      ∀ payload, payload ≠ [] → decodeAll payload = .ok twoFrames →
        payload = encodeAll twoFrames := by
  obtain ⟨hread, hwritten, -⟩ := decodeAll_exact
  refine ⟨hread twoFrames (by decide), by decide, fun payload hne h => ?_⟩
  exact (hwritten payload twoFrames hne h).2.symm

end Frame
end BatchInbox
