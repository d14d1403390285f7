import BatchInbox.Bytes
import BatchInbox.Word
import BatchInbox.Compression.Zlib
import BatchInbox.Compression.Zstd.Frame
import BatchInbox.Compression.Brotli.Stream

/-!
# Channel compression

The data of a channel is compressed in one of three formats, told apart by the first bytes: zlib by
the method in the low half of the first byte (8, or the reserved 15), zstd by its magic number.
Brotli data begins with nothing recognisable, so a version byte 1 stands in front of it.

## What is here

* `Compression` — the three formats; `Compression.detect` tells which one data is in.
* `Compression.decompress` — under a limit on the output, with `Compression.Error` for what can go
  wrong.
* `Compression.compress` — the inverse: a stream that holds its content as it is.
-/

set_option autoImplicit false
namespace BatchInbox

/-- The formats of channel data. -/
inductive Compression where
  | zlib
  | brotli
  | zstd
  deriving DecidableEq, Repr

namespace Compression

/-- The name of a format. -/
def name : Compression → String
  | zlib => "zlib"
  | brotli => "brotli"
  | zstd => "zstd"

/-- Why channel data does not decompress. -/
inductive Error where
  | empty
  | tooLarge (limit : Word)
  | unknownType (byte : UInt8)
  | corrupt (format : Compression) (cause : Corruption)
  /-- No word is larger than the limit.  The program does not tell this error but stops. -/
  | overflow
  deriving DecidableEq, Repr

/-- The text of a cause, which only zlib tells. -/
def corruptionText : Compression → Corruption → String
  | zlib, .invalid => "zlib: Failed"
  | zlib, .truncated => "zlib: FailedCannotMakeProgress"
  | zlib, .checksum => "zlib: Adler32Mismatch"
  | format, _ => format.name

/-- The text of an error. -/
def Error.message : Error → String
  | empty => "empty channel data"
  | tooLarge limit => s!"decompressed channel exceeds {limit} bytes"
  | unknownType byte => s!"unknown compression type: 0x{Bytes.toHex [byte]}"
  | corrupt format cause => corruptionText format cause
  | overflow => "attempt to add with overflow"

/-! ## Formats -/

/-- The byte in front of brotli data. -/
def brotliVersion : UInt8 := 1

/-- The first bytes of zstd data. -/
def zstdMagic : Bytes := [0x28, 0xb5, 0x2f, 0xfd]

/-- The format of channel data. -/
def detect (data : Bytes) : Except Error Compression :=
  match data with
  | [] => .error .empty
  | first :: _ =>
    if zstdMagic.isPrefixOf data then .ok zstd
    else if first = brotliVersion then .ok brotli
    else if first % 16 = 8 ∨ first % 16 = 15 then .ok zlib
    else .error (.unknownType first)

/-! ## Decompressing and compressing -/

/-- Bytes in consecutive memory. -/
def pack (bytes : Bytes) : ByteArray := ⟨bytes.toArray⟩

/-- The content of channel data in the given format. -/
def unpack (format : Compression) (data : Bytes) (limit : Nat) : Except UnpackError ByteArray :=
  match format with
  | zlib => Zlib.decompress (pack data) limit
  | brotli => Brotli.decompress (pack (data.drop 1)) limit
  | zstd => Zstd.decompress (pack data) limit

/-- To find out whether the output stays within the limit, one byte more is read of brotli and zstd
data.  The number of these bytes is a word as well, and there is none behind the largest limit. -/
def overflows (format : Compression) (limit : Word) : Bool :=
  format ≠ zlib && (Word.add? limit 1).isNone

/-- Decompresses channel data to at most `limit` bytes. -/
def decompress (data : Bytes) (limit : Word) : Except Error Bytes :=
  match detect data with
  | .error e => .error e
  | .ok format =>
    if overflows format limit then .error .overflow
    else
      match unpack format data limit.toNat with
      | .error .tooLarge => .error (.tooLarge limit)
      | .error (.corrupt cause) => .error (.corrupt format cause)
      | .ok out => .ok out.data.toList

/-- Channel data in the given format with the given content. -/
def compress (format : Compression) (content : Bytes) : Bytes :=
  match format with
  | zlib => (Zlib.compress (pack content)).data.toList
  | brotli => brotliVersion :: (Brotli.compress (pack content)).data.toList
  | zstd => (Zstd.compress (pack content)).data.toList

end Compression
end BatchInbox
