/-!
# Copying from what was already decompressed

All three formats shorten repetitions by referring back into their own output.  A reference may
reach into what it is about to write, which repeats the last `distance` bytes.
-/

set_option autoImplicit false
namespace BatchInbox

/-- Appends `length` bytes, each the one `distance` places before it. -/
def copyBack (out : ByteArray) (distance : Nat) : (length : Nat) → ByteArray
  | 0 => out
  | length + 1 => copyBack (out.push (out[out.size - distance]?.getD 0)) distance length

@[simp]
theorem size_copyBack (out : ByteArray) (distance length : Nat) :
    (copyBack out distance length).size = out.size + length := by
  induction length generalizing out with
  | zero => rfl
  | succ length ih =>
    rw [copyBack, ih, ByteArray.size_push]
    omega

/-- Appends the `length` bytes of `data` from `start` on, as far as it has them. -/
def appendSlice (out data : ByteArray) (start length : Nat) : ByteArray :=
  out ++ data.extract start (start + length)

@[simp]
theorem size_appendSlice (out data : ByteArray) (start length : Nat) :
    (appendSlice out data start length).size =
      out.size + (min (start + length) data.size - start) := by
  simp [appendSlice]

end BatchInbox
