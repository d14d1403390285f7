import BatchInbox.Compression
import BatchInbox.Proofs.Effect

/-!
# Decompressors only go forwards

A decompressor never takes back what it has put out, and never asks for room that its output does
not fill.  For zlib and brotli that is all there is to know: what they do next does not depend on
the consumer at all.  What zstd does next may, so it has no laws of its own; but its output only
grows too, whatever rules its frames have to keep.

## What is here

* `Deflate.demand_le_advance`, `Brotli.size_le_advance`, `Zstd.size_le_advance` — a step of a
  stream.
* `Zlib.lawful_unpacker`, `Brotli.lawful_unpacker` — the laws of `Unpacker.Lawful`.
* `Unpacker.fit`, `Zlib.decompress_eq_fit`, `Brotli.decompress_eq_fit` — the limit decides between
  one content and a report that it is too large.
-/

set_option autoImplicit false
namespace BatchInbox

namespace Unpacker
variable {σ : Type} {u : Unpacker σ} {limit rounds : Nat} {s : σ} {content : ByteArray}

/-- What a consumer gets of a content: all of it, or a report that it is too large. -/
def fit (content : ByteArray) (limit : Nat) : Except UnpackError ByteArray :=
  if limit < content.size then .error .tooLarge else .ok content

/-- Runs of a lawful machine have one content. -/
theorem Lawful.run_eq_fit (hu : u.Lawful) (h : u.run limit rounds s = .ok content) (limit' : Nat) :
    u.run limit' rounds s = fit content limit' := by
  rw [fit]
  split
  · rename_i hlt
    exact run_tooLarge h hlt
  · rename_i hle
    exact hu.run_mono h (Nat.le_of_not_lt hle)

end Unpacker

/-! ## Zlib -/

namespace Deflate
variable {data : ByteArray} {s t : State}

/-- A step fills the room that the stream has asked for before it. -/
theorem demand_le_advance (h : advance data s = .ok t) : s.demand ≤ t.out.size := by
  rcases s with ⟨pos, out, phase⟩
  cases phase with
  | ended =>
    cases h
    exact Nat.le_refl _
  | header =>
    rw [advance] at h
    rcases hheader : readHeader data pos with cause | ⟨phase, pos'⟩
    · rw [hheader] at h
      cases h
    · rw [hheader] at h
      cases h
      exact Nat.le_refl _
  | stored last left =>
    cases left with
    | zero =>
      cases h
      exact Nat.le_refl _
    | succ left =>
      simp only [advance] at h
      split at h
      · cases h
      · rename_i hcount
        cases h
        show out.size + 1 ≤ _
        rw [size_appendSlice]
        omega
  | coded last literals distances =>
    rw [advance] at h
    split at h
    · cases h
    · cases h
      rw [ByteArray.size_push]
      exact Nat.le_succ _
    · cases h
      exact Nat.le_refl _
    · split at h
      · cases h
      · cases h
        rw [size_copyBack]
        exact Nat.le_add_right _ _

/-- It asks for all of its output at least. -/
theorem size_le_demand (s : State) : s.out.size ≤ s.demand := by
  rw [State.demand]
  split
  · exact Nat.le_succ _
  · exact Nat.le_refl _

end Deflate

/-- **Zlib only goes forwards.** -/
theorem Zlib.lawful_unpacker (data : ByteArray) : (Zlib.unpacker data).Lawful := by
  have hmore : ∀ {s t}, (Zlib.unpacker data).step s = .more t → Deflate.advance data s = .ok t := by
    intro s t h
    simp only [Zlib.unpacker] at h
    split at h
    · split at h
      · cases h
      · split at h <;> cases h
    · split at h
      · cases h
      · rename_i hadvance
        cases h
        exact hadvance
  have hdone : ∀ {s t}, (Zlib.unpacker data).step s = .done t →
      t.out = s.out ∧ s.demand = s.out.size := by
    intro s t h
    simp only [Zlib.unpacker] at h
    split at h
    · split at h
      · cases h
      · split at h
        · cases h
          exact ⟨rfl, rfl⟩
        · cases h
    · split at h <;> cases h
  constructor
  · intro s t h
    exact Deflate.demand_le_advance (hmore h)
  · intro s t h
    exact Nat.le_trans (Deflate.size_le_demand s) (Deflate.demand_le_advance (hmore h))
  · intro s t h
    obtain ⟨hout, hdemand⟩ := hdone h
    exact Nat.le_of_eq (hdemand.trans (congrArg ByteArray.size hout.symm))
  · intro s t h
    exact Nat.le_of_eq (congrArg ByteArray.size (hdone h).1.symm)

theorem Zlib.decompress_eq_fit {data content : ByteArray} {limit : Nat}
    (h : Zlib.decompress data limit = .ok content) (limit' : Nat) :
    Zlib.decompress data limit' = Unpacker.fit content limit' := by
  rw [Zlib.decompress] at h ⊢
  rcases hheader : readHeader data 0 with cause | ⟨⟨⟩, pos⟩ <;> rw [hheader] at h
  · cases h
  · exact (lawful_unpacker data).run_eq_fit h limit'

/-! ## Brotli -/

namespace Brotli
variable {data : ByteArray} {s t : State}

theorem size_foldl_push (word : Bytes) (out : ByteArray) :
    (word.foldl .push out).size = out.size + word.length := by
  induction word generalizing out with
  | nil => rfl
  | cons byte word ih =>
    rw [List.foldl_cons, ih, ByteArray.size_push, List.length_cons]
    omega

/-- A copy adds bytes to the output. -/
theorem size_le_copy {block : MetaBlock} {length : Nat} {context : Option Nat}
    (h : copy data s block length context = .ok t) : s.out.size ≤ t.out.size := by
  simp only [copy] at h
  split at h
  · cases h
  · split at h
    · split at h
      · cases h
      · split at h
        · cases h
        · cases h
          rw [size_copyBack]
          exact Nat.le_add_right _ _
    · split at h
      · cases h
      · split at h
        · cases h
        · split at h
          · cases h
          · split at h
            · cases h
            · cases h
              rw [size_foldl_push]
              exact Nat.le_add_right _ _

/-- So does any step, if it does anything to the output. -/
theorem size_le_advance (h : advance data s = .ok t) : s.out.size ≤ t.out.size := by
  rcases s with ⟨pos, out, window, recent, phase⟩
  cases phase with
  | header =>
    simp only [advance] at h
    split at h <;> cases h
    exact Nat.le_refl _
  | plain left =>
    simp only [advance] at h
    split at h
    · cases h
    · cases h
      rw [size_appendSlice]
      exact Nat.le_add_right _ _
  | command block =>
    simp only [advance] at h
    split at h <;> cases h
    exact Nat.le_refl _
  | insert block literals length context =>
    cases literals with
    | zero => exact size_le_copy h
    | succ literals =>
      simp only [advance] at h
      split at h
      · cases h
      · split at h
        · split at h
          · cases h
          · cases h
            rw [ByteArray.size_push]
            exact Nat.le_succ _
        · cases h
          rw [ByteArray.size_push]
          exact Nat.le_succ _
  | ended =>
    cases h
    exact Nat.le_refl _

/-- Output is handed over a window at a time. -/
theorem demand_le_size (s : State) : s.demand ≤ s.out.size := by
  rw [State.demand]
  split
  · exact Nat.le_refl _
  · exact Nat.div_mul_le_self _ _

end Brotli

/-- **Brotli only goes forwards.** -/
theorem Brotli.lawful_unpacker (data : ByteArray) : (Brotli.unpacker data).Lawful := by
  have hmore : ∀ {s t}, (Brotli.unpacker data).step s = .more t →
      s.out.size ≤ t.out.size := by
    intro s t h
    simp only [Brotli.unpacker] at h
    split at h
    · cases h
    · rcases hadvance : Brotli.advance data s with cause | s'
      · rw [hadvance] at h
        cases cause <;> cases h
      · rw [hadvance] at h
        cases h
        exact Brotli.size_le_advance hadvance
  have hdone : ∀ {s t}, (Brotli.unpacker data).step s = .done t → t.out = s.out := by
    intro s t h
    simp only [Brotli.unpacker] at h
    split at h
    · cases h
      rfl
    · rcases hadvance : Brotli.advance data s with cause | s'
      · rw [hadvance] at h
        cases cause <;> cases h
      · rw [hadvance] at h
        cases h
  constructor
  · intro s t h
    exact Nat.le_trans (Brotli.demand_le_size s) (hmore h)
  · intro s t h
    exact hmore h
  · intro s t h
    rw [show (Brotli.unpacker data).output t = s.out from hdone h]
    exact Brotli.demand_le_size s
  · intro s t h
    exact Nat.le_of_eq (congrArg ByteArray.size (hdone h).symm)

theorem Brotli.decompress_eq_fit {data content : ByteArray} {limit : Nat}
    (h : Brotli.decompress data limit = .ok content) (limit' : Nat) :
    Brotli.decompress data limit' = Unpacker.fit content limit' := by
  rw [Brotli.decompress] at h ⊢
  rcases hwindow : readWindow data 0 with cause | ⟨window, pos⟩ <;> rw [hwindow] at h
  · cases h
  · exact (lawful_unpacker data).run_eq_fit h limit'

/-! ## Zstd -/

namespace Zstd
variable {data out out' : ByteArray}

/-- A sequence adds its literals and its match. -/
theorem Sequence.size_le_apply {s : Sequence} {literals : ByteArray} {used start : Nat}
    (h : s.apply literals used start out = .ok out') : out.size ≤ out'.size := by
  rw [Sequence.apply] at h
  split at h
  · cases h
  · simp only at h
    split at h
    · cases h
    · cases h
      rw [size_copyBack, size_appendSlice]
      omega

theorem size_le_readSequences {tables : FseTable × FseTable × FseTable} {literals : ByteArray}
    {start room count used left : Nat} {states : States} {offsets : Nat × Nat × Nat}
    {result : (ByteArray × Nat × (Nat × Nat × Nat)) × Nat}
    (h : readSequences tables literals start room count used states offsets out data left =
      .ok result) : out.size ≤ result.1.1.size := by
  induction count generalizing used states offsets out left with
  | zero =>
    cases h
    exact Nat.le_refl _
  | succ count ih =>
    simp only [readSequences] at h
    split at h
    · cases h
    split at h
    · cases h
    split at h
    · cases h
    split at h
    · cases h
    rename_i happly
    have hle := Sequence.size_le_apply happly
    split at h
    · cases h
    split at h
    · cases h
      exact hle
    split at h
    · cases h
    · exact Nat.le_trans hle (ih h)

/-- A reader gives its result if it gives it, and no bits are left. -/
theorem BackBits.runAll_eq_ok {α : Type} {reader : BackBits α} {stream : ByteArray} {a : α} :
    reader.runAll stream = .ok a ↔
      ∃ left, bitLength? stream = some left ∧ reader stream left = .ok (a, 0) := by
  rw [runAll]
  rcases bitLength? stream with _ | left
  · simp
  · rcases hread : reader stream left with cause | ⟨b, _ | rest⟩
    · simp [hread]
    · simp [hread]
    · simp [hread]

theorem size_le_readAllSequences {tables : FseTable × FseTable × FseTable} {literals : ByteArray}
    {start room count left : Nat} {offsets : Nat × Nat × Nat}
    {result : (ByteArray × Nat × (Nat × Nat × Nat)) × Nat}
    (h : readAllSequences tables literals start room count offsets out data left = .ok result) :
    out.size ≤ result.1.1.size := by
  obtain ⟨_, _, h⟩ := bind_eq_ok.1 h
  obtain ⟨_, _, h⟩ := bind_eq_ok.1 h
  obtain ⟨_, _, h⟩ := bind_eq_ok.1 h
  exact size_le_readSequences h

/-- A compressed block adds what its sequences do, and the literals that are left. -/
theorem size_le_readBlock {block : ByteArray} {maxSize start : Nat} {memory memory' : Memory}
    (h : readBlock block maxSize start memory out = .ok (out', memory')) :
    out.size ≤ out'.size := by
  simp only [readBlock] at h
  split at h
  · cases h
  obtain ⟨literals, _, h⟩ := bind_eq_ok.1 h
  obtain ⟨⟨count, position⟩, _, h⟩ := bind_eq_ok.1 h
  split at h
  · split at h
    · cases h
    · cases h
      rw [ByteArray.size_append]
      exact Nat.le_add_right _ _
  · obtain ⟨⟨tables, position⟩, _, h⟩ := bind_eq_ok.1 h
    obtain ⟨⟨out₁, used, offsets⟩, hall, h⟩ := bind_eq_ok.1 h
    obtain ⟨left, _, hread⟩ := BackBits.runAll_eq_ok.1 hall
    have hle := size_le_readAllSequences hread
    split at h
    · cases h
    · cases h
      rw [ByteArray.size_append]
      exact Nat.le_trans hle (Nat.le_add_right _ _)

variable {frame : FrameState}

theorem size_le_takeContent {pos kind size coded : Nat} {memory : Memory}
    (h : takeContent data frame pos kind size coded out = .ok (out', memory)) :
    out.size ≤ out'.size := by
  simp only [takeContent] at h
  split at h
  · cases h
  split at h
  · cases h
  split at h
  · cases h
    rw [size_appendSlice]
    exact Nat.le_add_right _ _
  · split at h
    · cases h
    · cases h
      rw [ByteArray.size_append]
      exact Nat.le_add_right _ _
  · split at h
    · cases h
      exact Nat.le_refl _
    · exact size_le_readBlock h
  · cases h

theorem size_le_takeBlock {pos : Nat} {t : State} (h : takeBlock data frame pos out = .ok t) :
    out.size ≤ t.out.size := by
  simp only [takeBlock] at h
  split at h
  · cases h
  split at h
  · cases h
    rw [size_appendSlice]
    exact Nat.le_add_right _ _
  split at h
  · cases h
  · rename_i hcontent
    have hle := size_le_takeContent hcontent
    split at h
    · cases h
    split at h
    · split at h
      · cases h
      · cases h
        exact hle
    · cases h
      exact hle

theorem size_le_advance {rules : Header → Nat → Rules} {s t : State}
    (h : advance data rules s = .ok t) : s.out.size ≤ t.out.size := by
  rcases s with ⟨pos, out, phase⟩
  cases phase with
  | between =>
    simp only [advance, enterFrame] at h
    split at h
    · cases h
    split at h
    · split at h
      · cases h
      · split at h
        · cases h
        · cases h
          exact Nat.le_refl _
    split at h
    · split at h
      · cases h
      · cases h
        exact Nat.le_refl _
    · cases h
  | inside frame => exact size_le_takeBlock h
  | closing frame =>
    simp only [advance, leaveFrame] at h
    split at h
    · split at h
      · cases h
      split at h
      · cases h
        exact Nat.le_refl _
      · cases h
    · cases h
      exact Nat.le_refl _

end Zstd
end BatchInbox
