import BatchInbox.Proofs.Coverage
import BatchInbox.Proofs.Conformity
import Mathlib

/-!
# What the limit decides

Data has one content, and the limit on it decides between this content and a report that it is too
large.  Two things get in the way.

The number of bytes that is read of brotli and zstd data is one more than the limit, so that an excess
shows; but behind the largest limit there is no such word, and the program stops.  And zstd data is
found corrupt at one limit and not at another one if it breaks a rule that only one of the two ways to
decompress a frame checks, since the way depends on the room that is left.

## What is here

* `Compression.limit_decides` — what data that gives a content at one limit gives at all others.
* `Compression.limit_does_not_decide` — data whose content depends on the limit.
-/

set_option autoImplicit false
namespace BatchInbox
namespace Compression

/-- Data in one of the formats has one content, unless it is zstd data that breaks a rule. -/
theorem unpack_of_ok {format : Compression} {data : Bytes} {limit : Nat} {content : ByteArray}
    (h : unpack format data limit = .ok content) (limit' : Nat) :
    unpack format data limit' = Unpacker.fit content limit' ∨
      (format = zstd ∧ ¬ Zstd.Conforms (pack data)) ∧
        ∃ cause, unpack format data limit' = .error (.corrupt cause) := by
  cases format with
  | zlib => exact .inl (Zlib.decompress_eq_fit h limit')
  | brotli => exact .inl (Brotli.decompress_eq_fit h limit')
  | zstd =>
    obtain ⟨hone, hconforms⟩ := Zstd.decompress_of_ok h limit'
    by_cases hrules : Zstd.Conforms (pack data)
    · exact .inl (hconforms hrules)
    · exact hone.imp_right fun hcorrupt => ⟨⟨rfl, hrules⟩, hcorrupt⟩

variable {data out : Bytes} {format : Compression} {limit : Word}

theorem decompress_of_goes (hformat : detect data = .ok format)
    (hgoes : overflows format limit = false) :
    decompress data limit =
      match unpack format data limit.toNat with
      | .error .tooLarge => .error (.tooLarge limit)
      | .error (.corrupt cause) => .error (.corrupt format cause)
      | .ok out => .ok out.data.toList := by
  rw [decompress, hformat]
  exact if_neg (ne_true_of_eq_false hgoes)

/-- An output is a content that was read, in a list. -/
theorem exists_of_decompress (hformat : detect data = .ok format)
    (h : decompress data limit = .ok out) :
    ∃ content, unpack format data limit.toNat = .ok content ∧ out = content.data.toList := by
  rw [decompress, hformat] at h
  simp only at h
  split at h
  · cases h
  · split at h
    · cases h
    · cases h
    · rename_i content hcontent
      cases h
      exact ⟨content, hcontent, rfl⟩

/-- A content that does or does not fit. -/
theorem decompress_of_fit {content : ByteArray} (hformat : detect data = .ok format)
    (hgoes : overflows format limit = false)
    (hfit : unpack format data limit.toNat = Unpacker.fit content limit.toNat) :
    decompress data limit =
      if content.data.toList.length ≤ limit.toNat then .ok content.data.toList
      else .error (.tooLarge limit) := by
  have hlength : content.data.toList.length = content.size := Array.length_toList
  rw [decompress_of_goes hformat hgoes, hfit, Unpacker.fit, hlength]
  by_cases hlt : limit.toNat < content.size
  · rw [if_pos hlt, if_neg (Nat.not_le_of_lt hlt)]
  · rw [if_neg hlt, if_pos (Nat.le_of_not_lt hlt)]

/-- **What the limit decides.**  Output is never longer than the limit.  Data that gives an output at
one limit gives the same at every limit that is not below its length, and is too large for the
limits below; but at the largest limit the program stops, unless the data is zlib data, and zstd data
that breaks a rule may be found corrupt instead. -/
theorem limit_decides (h : decompress data limit = .ok out) :
    out.length ≤ limit.toNat ∧
      ∃ format, detect data = .ok format ∧
        (∀ limit', format ≠ zlib → limit' = Word.max → decompress data limit' = .error .overflow) ∧
        ∀ limit', format = zlib ∨ limit' ≠ Word.max →
          (decompress data limit' =
            if out.length ≤ limit'.toNat then .ok out else .error (.tooLarge limit')) ∨
          (format = zstd ∧ ¬ Zstd.Conforms (pack data)) ∧
            ∃ cause, decompress data limit' = .error (.corrupt zstd cause) := by
  refine ⟨length_decompress_le h, ?_⟩
  rcases hformat : detect data with e | format
  · rw [decompress, hformat] at h
    cases h
  refine ⟨format, rfl, fun limit' hstreamed hmax => ?_, fun limit' hlimit => ?_⟩
  · exact decompress_eq_overflow_iff.2 ⟨format, hformat, hstreamed, hmax⟩
  · have hgoes : overflows format limit' = false := by
      rw [← Bool.not_eq_true, overflows_iff, not_and_or, not_not]
      exact hlimit
    obtain ⟨content, hcontent, rfl⟩ := exists_of_decompress hformat h
    rcases unpack_of_ok hcontent limit'.toNat with hfit | ⟨hzstd, cause, hcorrupt⟩
    · exact .inl (decompress_of_fit hformat hgoes hfit)
    · refine .inr ⟨hzstd, cause, ?_⟩
      rw [decompress_of_goes hformat hgoes, hcorrupt, hzstd.1]

/-- A zstd frame that states the size of its content, three bytes. -/
def abcFrame : Bytes :=
  zstdMagic ++ [0x20, 0x03, 0x19, 0x00, 0x00, 0x61, 0x62, 0x63]

theorem limit_decides_abcFrame :
    (decompress abcFrame 9 = .ok [0x61, 0x62, 0x63] ∧ Zstd.Conforms (pack abcFrame)) ∧
      decompress abcFrame 3 = .ok [0x61, 0x62, 0x63] ∧
      decompress abcFrame 2 = .error (.tooLarge 2) ∧
      decompress abcFrame Word.max = .error .overflow := by
  have hread : decompress abcFrame 9 = .ok [0x61, 0x62, 0x63] := by cbv
  have hconforms : Zstd.Conforms (pack abcFrame) := by
    rw [Zstd.Conforms]
    cbv
  obtain ⟨-, format, hformat, hstops, hall⟩ := limit_decides hread
  obtain rfl : zstd = format := Except.ok.inj hformat
  have hfits : ∀ limit, limit ≠ Word.max → decompress abcFrame limit =
      if 3 ≤ limit.toNat then .ok [0x61, 0x62, 0x63] else .error (.tooLarge limit) :=
    fun limit hlimit =>
      (hall limit (.inr hlimit)).resolve_right fun hcorrupt => hcorrupt.1.2 hconforms
  exact ⟨⟨hread, hconforms⟩, hfits 3 (by decide), hfits 2 (by decide), hstops _ (by decide) rfl⟩

/-- Brotli data of three bytes. -/
def abcBrotli : Bytes := [brotliVersion, 0x0b, 0x01, 0x80, 0x61, 0x62, 0x63, 0x03]

/-- A zstd frame that states twenty bytes of content, and has an empty block. -/
def hollowFrame : Bytes := zstdMagic ++ [0x20, 0x14, 0x01, 0x00, 0x00]

/-- A zstd frame of twenty bytes that asks for a window of a gigabyte. -/
def wideFrame : Bytes :=
  zstdMagic ++ [0x80, 0xa0, 0x14, 0x00, 0x00, 0x00, 0xa1, 0x00, 0x00] ++ List.replicate 20 0x41

/-- At a limit that is not below the length of an output the program may stop, or find the data
corrupt, and the latter at a limit that is below as well. -/
theorem limit_does_not_decide :
    (decompress abcBrotli 4 = .ok [0x61, 0x62, 0x63] ∧
        decompress abcBrotli Word.max = .error .overflow) ∧
      (decompress hollowFrame 5 = .ok [] ∧
        decompress hollowFrame 31 = .error (.corrupt zstd .invalid)) ∧
      decompress wideFrame 20 = .ok (List.replicate 20 0x41) ∧
        decompress wideFrame 5 = .error (.corrupt zstd .invalid) := by
  refine ⟨⟨?_, ?_⟩, ⟨?_, ?_⟩, ?_, ?_⟩ <;> cbv

end Compression
end BatchInbox
