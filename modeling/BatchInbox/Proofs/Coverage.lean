import BatchInbox.Coverage
import BatchInbox.Proofs.Batch
import Mathlib.Data.List.Forall2

/-!
# A channel's batches are those that were compressed

Decompression is under a limit, which is a word, so the length of what it gives is one too, and so
is the length of every string in a row of batches that comes out of it.

A closed channel covers the blocks of all its batches or nothing: it may be too large, and anything
malformed in it spoils it, wherever that is.

## What is here

* `Compression.length_decompress_le` — the limit is kept; `Compression.decompress_eq_overflow_iff` —
  and when the program stops for it.
* `ClosedChannel.batches_of_decompress` — a channel that decompresses to a row has its batches.
* `ClosedChannel.range_coverage` — channels with the same data cover the same blocks.
* `ClosedChannel.coverage_eq_ok_iff`, `coverage_eq_tooLarge_iff`, `coverage_eq_overflow_iff`,
  `coverage_eq_error_iff` — when a channel covers blocks, and why it does not.
-/

set_option autoImplicit false
namespace BatchInbox

namespace Compression

theorem size_unpack_le {format : Compression} {data : Bytes} {limit : Nat} {out : ByteArray}
    (h : unpack format data limit = .ok out) : out.size ≤ limit := by
  cases format with
  | zlib =>
    simp only [unpack, Zlib.decompress] at h
    split at h
    · exact absurd h nofun
    · exact Unpacker.run_size_le h
  | brotli =>
    simp only [unpack, Brotli.decompress] at h
    split at h
    · exact absurd h nofun
    · exact Unpacker.run_size_le h
  | zstd => exact Unpacker.run_size_le h

/-- The limit is kept. -/
theorem length_decompress_le {data : Bytes} {limit : Word} {content : Bytes}
    (h : decompress data limit = .ok content) : content.length ≤ limit.toNat := by
  rw [decompress] at h
  split at h
  · exact absurd h nofun
  · split at h
    · exact absurd h nofun
    · split at h
      · exact absurd h nofun
      · exact absurd h nofun
      · rename_i out hout
        cases h
        have := size_unpack_le hout
        rwa [ByteArray.size, ← Array.length_toList] at this

/-- Why data is in no format. -/
theorem detect_eq_error {data : Bytes} {e : Error} (h : detect data = .error e) :
    e = .empty ∨ ∃ byte, e = .unknownType byte := by
  rw [detect.eq_def] at h
  split at h
  · cases h
    exact .inl rfl
  · split at h
    · cases h
    · split at h
      · cases h
      · split at h <;> cases h
        exact .inr ⟨_, rfl⟩

theorem overflows_iff {format : Compression} {limit : Word} :
    overflows format limit = true ↔ format ≠ zlib ∧ limit = Word.max := by
  rw [overflows, Bool.and_eq_true, decide_eq_true_iff, Option.isNone_iff_eq_none,
    Word.add?_one_eq_none_iff]

/-- **The program stops** at brotli and zstd data if the limit is the largest word, whatever the data
is. -/
theorem decompress_eq_overflow_iff {data : Bytes} {limit : Word} :
    decompress data limit = .error .overflow ↔
      ∃ format, detect data = .ok format ∧ format ≠ zlib ∧ limit = Word.max := by
  rw [decompress]
  cases hformat : detect data with
  | error e =>
    rcases detect_eq_error hformat with rfl | ⟨byte, rfl⟩ <;> simp
  | ok format =>
    simp only [← overflows_iff, Except.ok.injEq, exists_eq_left']
    split
    · exact iff_of_true rfl ‹_›
    · refine iff_of_false (fun heq => ?_) ‹_›
      split at heq <;> cases heq

/-- Data is too large for the limit that was given, and for no other. -/
theorem limit_of_tooLarge {data : Bytes} {limit limit' : Word}
    (h : decompress data limit = .error (.tooLarge limit')) : limit' = limit := by
  rw [decompress] at h
  split at h
  · rename_i hformat
    cases h
    rcases detect_eq_error hformat with heq | ⟨byte, heq⟩ <;> cases heq
  · split at h
    · cases h
    · split at h <;> cases h
      rfl

end Compression

namespace ClosedChannel

/-- A channel that decompresses to a row of batches has those batches. -/
theorem batches_of_decompress {c : ClosedChannel} {limit : Word} {batches : List Batch}
    (hdata : Compression.decompress c.data limit = .ok (Batch.encodeStream batches))
    (hbatches : ∀ b ∈ batches, b.WellFormed) : c.batches limit = .ok batches := by
  have hlength : (Batch.encodeStream batches).length < Nat.pow 256 8 :=
    Nat.lt_of_le_of_lt (Compression.length_decompress_le hdata) limit.toNat_lt
  rw [ClosedChannel.batches, hdata]
  simp only
  rw [Batch.decodeStream_encodeStream hbatches hlength]

variable {c c' : ClosedChannel} {config : Rollup}

/-- Which blocks batches stand for is not a matter of the channel that carries them. -/
theorem range_coverageOf {index : Nat} {batches : List Batch} {covered : List Coverage}
    (h : c.coverageOf config index batches = .ok covered) :
    ∃ covered', c'.coverageOf config index batches = .ok covered' ∧
      covered'.map (·.range) = covered.map (·.range) := by
  induction batches generalizing index covered with
  | nil =>
    cases h
    exact ⟨[], rfl, rfl⟩
  | cons b batches ih =>
    rw [coverageOf] at h ⊢
    cases hblocks : b.blocks config with
    | error cause =>
      rw [hblocks] at h
      exact absurd h nofun
    | ok range =>
      rw [hblocks] at h
      simp only at h ⊢
      split at h
      · exact absurd h nofun
      · rename_i coverage hrest
        cases h
        obtain ⟨covered', hcovered', hranges⟩ := ih hrest
        rw [hcovered']
        refine ⟨_, rfl, ?_⟩
        rw [List.map_cons, List.map_cons, hranges]

/-- Channels with the same data cover the same blocks. -/
theorem range_coverage {limit : Word} {covered : List Coverage} (hdata : c'.data = c.data)
    (h : c.coverage config limit = .ok covered) :
    ∃ covered', c'.coverage config limit = .ok covered' ∧
      covered'.map (·.range) = covered.map (·.range) := by
  have hbatches : c'.batches limit = c.batches limit := by
    rw [batches, batches, hdata]
  rw [coverage, hbatches]
  rw [coverage] at h
  split at h
  · exact absurd h nofun
  · exact range_coverageOf h

/-! ## All or nothing -/

/-- The blocks of a batch, given with its place in the channel. -/
def Covers (c : ClosedChannel) (config : Rollup) (b : Batch × Nat) (coverage : Coverage) : Prop :=
  ∃ range, b.1.blocks config = .ok range ∧ coverage = ⟨range, b.1.type, c.id, c.closedAt, b.2⟩

/-- Batches are covered if all of them stand for blocks. -/
theorem coverageOf_eq_ok_iff {index : Nat} {batches : List Batch} {covered : List Coverage} :
    c.coverageOf config index batches = .ok covered ↔
      List.Forall₂ (c.Covers config) (batches.zipIdx index) covered := by
  induction batches generalizing index covered with
  | nil =>
    rw [coverageOf, List.zipIdx_nil, List.forall₂_nil_left_iff, Except.ok.injEq]
    exact eq_comm
  | cons b batches ih =>
    rw [coverageOf, List.zipIdx_cons, List.forall₂_cons_left_iff]
    constructor
    · intro h
      split at h
      · exact absurd h nofun
      · rename_i range hrange
        split at h
        · exact absurd h nofun
        · rename_i rest hrest
          cases h
          exact ⟨_, rest, ⟨range, hrange, rfl⟩, ih.1 hrest, rfl⟩
    · rintro ⟨_, rest, ⟨range, hrange, rfl⟩, hrest, rfl⟩
      rw [hrange]
      simp only [ih.2 hrest]

/-- Otherwise it is the first one without blocks that is told. -/
theorem coverageOf_eq_error_iff {index : Nat} {batches : List Batch} {e : Coverage.Error} :
    c.coverageOf config index batches = .error e ↔
      ∃ earlier b later cause, batches = earlier ++ b :: later ∧
        (∀ b' ∈ earlier, ∃ range, b'.blocks config = .ok range) ∧
        b.blocks config = .error cause ∧ e = .batch (index + earlier.length) cause := by
  induction batches generalizing index with
  | nil =>
    rw [coverageOf]
    exact ⟨nofun, fun ⟨_, _, _, _, h, _⟩ => absurd h (by simp)⟩
  | cons b batches ih =>
    rw [coverageOf]
    cases hblocks : b.blocks config with
    | error cause =>
      simp only [Except.error.injEq]
      constructor
      · rintro rfl
        exact ⟨[], b, batches, cause, rfl, nofun, hblocks, rfl⟩
      · rintro ⟨earlier, b', later, cause', heq, hearlier, hb', rfl⟩
        cases earlier with
        | nil =>
          cases heq
          rw [hblocks] at hb'
          cases hb'
          rfl
        | cons first earlier =>
          cases heq
          obtain ⟨range, hrange⟩ := hearlier b List.mem_cons_self
          rw [hblocks] at hrange
          exact absurd hrange nofun
    | ok range =>
      constructor
      · intro h
        simp only at h
        split at h
        · rename_i hrest
          cases h
          obtain ⟨earlier, b', later, cause, rfl, hearlier, hb', rfl⟩ := ih.1 hrest
          refine ⟨b :: earlier, b', later, cause, rfl, ?_, hb', ?_⟩
          · rw [List.forall_mem_cons]
            exact ⟨⟨range, hblocks⟩, hearlier⟩
          · rw [List.length_cons, Nat.add_right_comm, Nat.add_assoc]
        · exact absurd h nofun
      · rintro ⟨earlier, b', later, cause, heq, hearlier, hb', he⟩
        cases earlier with
        | nil =>
          cases heq
          rw [hblocks] at hb'
          exact absurd hb' nofun
        | cons first earlier =>
          cases heq
          rw [List.length_cons, ← Nat.add_assoc, Nat.add_right_comm] at he
          rw [List.forall_mem_cons] at hearlier
          have hrest := ih.2 ⟨earlier, b', later, cause, rfl, hearlier.2, hb', he⟩
          simp only [hrest]

variable {limit : Word}

/-- Why a closed channel stands for no blocks, other than that its data is too large.  That the program
stops is not a reason either. -/
inductive Fails (c : ClosedChannel) (config : Rollup) (limit : Word) : Coverage.Error → Prop where
  /-- Its data does not decompress. -/
  | corrupt {cause : Compression.Error}
    (hdata : Compression.decompress c.data limit = .error cause)
    (hcause : ∀ limit, cause ≠ .tooLarge limit) (hgoes : cause ≠ .overflow) :
    Fails c config limit (.decompress cause)
  /-- A batch in it is malformed. -/
  | malformed {content : Bytes} {read : List Batch} {cause : Batch.Error}
    (hdata : Compression.decompress c.data limit = .ok content)
    (hread : Batch.decodeStream content = (read, some cause)) :
    Fails c config limit (.batch read.length cause)
  /-- A batch in it stands for no blocks, and is the first one that does not. -/
  | noBlocks {content : Bytes} {earlier later : List Batch} {b : Batch} {cause : Batch.Error}
    (hdata : Compression.decompress c.data limit = .ok content)
    (hread : Batch.decodeStream content = (earlier ++ b :: later, none))
    (hearlier : ∀ b' ∈ earlier, ∃ range, b'.blocks config = .ok range)
    (hb : b.blocks config = .error cause) : Fails c config limit (.batch earlier.length cause)

theorem Fails.ne_tooLarge {e : Coverage.Error} (h : c.Fails config limit e) (limit' : Word) :
    e ≠ .tooLarge limit' := by
  cases h <;> nofun

theorem Fails.ne_overflow {e : Coverage.Error} (h : c.Fails config limit e) : e ≠ .overflow := by
  cases h <;> nofun

/-- **A channel covers the blocks of all its batches.** -/
theorem coverage_eq_ok_iff {covered : List Coverage} :
    c.coverage config limit = .ok covered ↔
      ∃ content batches, Compression.decompress c.data limit = .ok content ∧
        Batch.decodeStream content = (batches, none) ∧
        List.Forall₂ (c.Covers config) batches.zipIdx covered := by
  rw [coverage, batches]
  cases hdata : Compression.decompress c.data limit with
  | error cause => simp
  | ok content =>
    simp only
    rcases hread : Batch.decodeStream content with ⟨read, _ | cause⟩ <;>
      simp [hread, coverageOf_eq_ok_iff]

/-- **A channel is too large** if its data is when it is decompressed. -/
theorem coverage_eq_tooLarge_iff {limit' : Word} :
    c.coverage config limit = .error (.tooLarge limit') ↔
      limit' = limit ∧ Compression.decompress c.data limit = .error (.tooLarge limit) := by
  rw [coverage, batches]
  cases hdata : Compression.decompress c.data limit with
  | error cause =>
    cases cause with
    | tooLarge limit'' =>
      obtain rfl := Compression.limit_of_tooLarge hdata
      simp [Coverage.Error.ofCompression, eq_comm]
    | _ => simp [Coverage.Error.ofCompression]
  | ok content =>
    simp only
    rcases hread : Batch.decodeStream content with ⟨read, _ | cause⟩ <;>
      simp [coverageOf_eq_error_iff]

/-- The program stops at a channel if it does so when its data is decompressed. -/
theorem coverage_eq_overflow_iff :
    c.coverage config limit = .error .overflow ↔
      Compression.decompress c.data limit = .error .overflow := by
  rw [coverage, batches]
  cases hdata : Compression.decompress c.data limit with
  | error cause => cases cause <;> simp [Coverage.Error.ofCompression]
  | ok content =>
    simp only
    rcases hread : Batch.decodeStream content with ⟨read, _ | cause⟩ <;>
      simp [coverageOf_eq_error_iff]

/-- **Anything else spoils the whole channel.** -/
theorem coverage_eq_error_iff {e : Coverage.Error} (he : ∀ limit, e ≠ .tooLarge limit)
    (hgoes : e ≠ .overflow) : c.coverage config limit = .error e ↔ c.Fails config limit e := by
  rw [coverage, batches]
  constructor
  · intro h
    cases hdata : Compression.decompress c.data limit with
    | error cause =>
      rw [hdata] at h
      cases cause with
      | tooLarge limit' => exact absurd (Except.error.inj h).symm (he limit')
      | overflow => exact absurd (Except.error.inj h).symm hgoes
      | _ =>
        cases h
        exact .corrupt hdata nofun nofun
    | ok content =>
      rw [hdata] at h
      simp only at h
      rcases hread : Batch.decodeStream content with ⟨read, _ | cause⟩ <;> rw [hread] at h
      · obtain ⟨earlier, b, later, cause, rfl, hearlier, hb, rfl⟩ := coverageOf_eq_error_iff.1 h
        rw [Nat.zero_add]
        exact .noBlocks hdata hread hearlier hb
      · cases h
        exact .malformed hdata hread
  · intro h
    cases h with
    | @corrupt cause hdata hcause hgoes' =>
      rw [hdata]
      cases cause with
      | tooLarge limit' => exact absurd rfl (hcause limit')
      | overflow => exact absurd rfl hgoes'
      | _ => rfl
    | malformed hdata hread =>
      rw [hdata]
      simp only [hread]
    | noBlocks hdata hread hearlier hb =>
      rw [hdata]
      simp only [hread]
      exact coverageOf_eq_error_iff.2 ⟨_, _, _, _, rfl, hearlier, hb, by rw [Nat.zero_add]⟩

end ClosedChannel
end BatchInbox
