import BatchInbox.Rlp
import BatchInbox.Proofs.Row

/-!
# Items are read back

An item's header says how long the item is, so a reader finds its end whatever follows.  The length
itself takes at most eight bytes, which is all that a header has room for.

## What is here

* `Rlp.toNat_trimmed`, `Rlp.length_trimmed_le` — numbers without leading zeros.
* `Rlp.readHeader_header` — a header tells the kind and the length of what follows.
* `Rlp.readString_append`, `readWord_append`, `readFixed_append`, `readStrings_append` — every
  reader undoes its writer.
* `Rlp.length_lt_of_readString` — whatever is read, a string takes a byte.
-/

set_option autoImplicit false
namespace BatchInbox
namespace Rlp

/-! ## Numbers without leading zeros -/

@[simp]
theorem toNat_trimmed (n : Nat) : (trimmed n).toNat = n := by
  induction n using Nat.strongRecOn with
  | ind n ih =>
    rw [trimmed]
    split
    · rename_i hn
      rw [hn]
      rfl
    · rename_i hn
      have hlow : n.toUInt8.toNat = n % 256 := by simp
      rw [Bytes.toNat_append_singleton, ih (n / 256) (by omega), hlow]
      omega

theorem trimmed_ne_nil {n : Nat} (h : n ≠ 0) : trimmed n ≠ [] := by
  rw [trimmed, if_neg h]
  exact List.append_ne_nil_of_right_ne_nil _ (List.cons_ne_nil _ _)

/-- The first byte is not zero. -/
theorem head?_trimmed (n : Nat) : (trimmed n).head? ≠ some 0 := by
  induction n using Nat.strongRecOn with
  | ind n ih =>
    rw [trimmed]
    split
    · nofun
    · rename_i hn
      rw [List.head?_append]
      by_cases hhigh : n / 256 = 0
      · have hlow : n.toUInt8.toNat = n := by
          simp
          omega
        rw [hhigh, trimmed, if_pos rfl]
        simp only [List.head?_nil, List.head?_cons, Option.none_or]
        intro hzero
        rw [Option.some.inj hzero] at hlow
        exact hn hlow.symm
      · obtain ⟨b, bytes, hb⟩ := List.exists_cons_of_ne_nil (trimmed_ne_nil hhigh)
        have := ih (n / 256) (by omega)
        rw [hb] at this ⊢
        simpa using this

/-- A number below `256 ^ k` takes at most `k` bytes. -/
theorem length_trimmed_le {n k : Nat} (h : n < Nat.pow 256 k) : (trimmed n).length ≤ k := by
  induction k generalizing n with
  | zero =>
    have : n = 0 := by simpa using h
    rw [this, trimmed, if_pos rfl]
    simp
  | succ k ih =>
    rw [trimmed]
    split
    · simp
    · replace h : n < Nat.pow 256 k * 256 := h
      have := ih (Nat.div_lt_of_lt_mul (by omega) : n / 256 < Nat.pow 256 k)
      simp
      omega

/-! ## Headers -/

theorem readLength_append {n : Nat} (h : 56 ≤ n) (rest : Bytes) :
    readLength (trimmed n).length (trimmed n ++ rest) = .ok (n, rest) := by
  rw [readLength, Bytes.split?_append rfl]
  simp only
  rw [if_neg (head?_trimmed n), toNat_trimmed, if_neg (by omega)]

/-- The codes that tell short lengths begin here. -/
def shortCode (isList : Bool) : UInt8 := if isList then 0xc0 else 0x80

/-- A short length is told by the code alone.  A string of one byte needs a header only if that byte
could be taken for one. -/
theorem readHeader_short {isList : Bool} {n : Nat} (h : n < 56) {rest : Bytes}
    (hone : isList = false → n = 1 → ∃ b bytes, rest = b :: bytes ∧ 0x80 ≤ b) :
    readHeader ((shortCode isList + n.toUInt8) :: rest) = .ok (isList, n, rest) := by
  have hcode : (shortCode isList + n.toUInt8).toNat = (shortCode isList).toNat + n := by
    cases isList <;> simp [shortCode, UInt8.toNat_add] <;> omega
  rw [readHeader.eq_def]
  simp only [UInt8.lt_iff_toNat_lt, hcode]
  cases isList with
  | true =>
    have hbase : (shortCode true).toNat = 192 := rfl
    simp only [hbase, UInt8.reduceToNat]
    rw [if_neg (by omega), if_neg (by omega), if_neg (by omega), if_pos (by omega)]
    simp
  | false =>
    have hbase : (shortCode false).toNat = 128 := rfl
    simp only [hbase, UInt8.reduceToNat]
    rw [if_neg (by omega), if_pos (by omega)]
    have hlength : 128 + n - 128 = n := by omega
    rw [hlength]
    by_cases hn : n = 1
    · obtain ⟨b, bytes, rfl, hb⟩ := hone rfl hn
      have := UInt8.le_iff_toNat_le.1 hb
      rw [if_pos hn]
      simp only [UInt8.reduceToNat] at *
      rw [if_neg (by omega), hn]
    · rw [if_neg hn]

/-- A long length stands behind the code. -/
theorem readHeader_long {isList : Bool} {n : Nat} (h : 56 ≤ n) (hmax : n < Nat.pow 256 8)
    (rest : Bytes) :
    readHeader ((shortCode isList + 55 + (trimmed n).length.toUInt8) :: (trimmed n ++ rest)) =
      .ok (isList, n, rest) := by
  have hpos := List.length_pos_iff.2 (trimmed_ne_nil (by omega : n ≠ 0))
  have hle := length_trimmed_le hmax
  have hread := readLength_append h rest
  generalize hdigits : trimmed n = digits at *
  have hcode : (shortCode isList + 55 + digits.length.toUInt8).toNat =
      (shortCode isList).toNat + 55 + digits.length := by
    cases isList <;> simp [shortCode, UInt8.toNat_add] <;> omega
  rw [readHeader.eq_def]
  simp only [UInt8.lt_iff_toNat_lt, hcode]
  cases isList with
  | true =>
    have hbase : (shortCode true).toNat = 192 := rfl
    simp only [hbase, UInt8.reduceToNat]
    rw [if_neg (by omega), if_neg (by omega), if_neg (by omega), if_neg (by omega)]
    have hsize : 192 + 55 + digits.length - 247 = digits.length := by omega
    rw [hsize, hread]
    rfl
  | false =>
    have hbase : (shortCode false).toNat = 128 := rfl
    simp only [hbase, UInt8.reduceToNat]
    rw [if_neg (by omega), if_neg (by omega), if_pos (by omega)]
    have hsize : 128 + 55 + digits.length - 183 = digits.length := by omega
    rw [hsize, hread]
    rfl

/-- A header tells the kind and the length of what follows. -/
theorem readHeader_header (isList : Bool) {n : Nat} (hmax : n < Nat.pow 256 8) {rest : Bytes}
    (hone : isList = false → n = 1 → ∃ b bytes, rest = b :: bytes ∧ 0x80 ≤ b) :
    readHeader (header (shortCode isList) n ++ rest) = .ok (isList, n, rest) := by
  rw [header]
  split
  · rename_i h
    exact readHeader_short h hone
  · rename_i h
    exact readHeader_long (by omega) hmax rest

/-! ## Strings -/

/-- A byte that no header begins with is its own item; every other string has a header. -/
theorem string_cases (bytes : Bytes) :
    (∃ b, bytes = [b] ∧ b < 0x80 ∧ string bytes = [b]) ∨
      ((∀ b, bytes = [b] → 0x80 ≤ b) ∧
        string bytes = header (shortCode false) bytes.length ++ bytes) := by
  unfold string
  split
  · rename_i b
    by_cases hb : b < 0x80
    · exact .inl ⟨b, rfl, hb, if_pos hb⟩
    · refine .inr ⟨fun c hc => ?_, if_neg hb⟩
      cases hc
      exact UInt8.not_lt.1 hb
  · rename_i hsingle
    exact .inr ⟨fun b hb => absurd hb (hsingle b), rfl⟩

/-- A string is no longer than its item. -/
theorem length_le_length_string (bytes : Bytes) : bytes.length ≤ (string bytes).length := by
  obtain ⟨b, hbytes, -, hstring⟩ | ⟨-, hstring⟩ := string_cases bytes
  · exact Nat.le_of_eq (by rw [hstring, hbytes])
  · rw [hstring, List.length_append]
    exact Nat.le_add_left ..

theorem readPayload_header (isList : Bool) {payload : Bytes}
    (hmax : payload.length < Nat.pow 256 8)
    (hone : isList = false → ∀ b, payload = [b] → 0x80 ≤ b) (rest : Bytes) :
    readPayload isList (header (shortCode isList) payload.length ++ payload ++ rest) =
      .ok (payload, rest) := by
  have hread : readHeader (header (shortCode isList) payload.length ++ (payload ++ rest)) =
      .ok (isList, payload.length, payload ++ rest) := by
    refine readHeader_header isList hmax fun hstring hlength => ?_
    obtain ⟨b, rfl⟩ := List.length_eq_one_iff.1 hlength
    exact ⟨b, rest, rfl, hone hstring b rfl⟩
  rw [List.append_assoc, readPayload, hread]
  simp only [bind, Except.bind]
  rw [Bytes.split?_append rfl]
  simp

/-- A string is read, whatever follows it. -/
theorem readString_append {bytes : Bytes} (h : bytes.length < Nat.pow 256 8) (rest : Bytes) :
    readString (string bytes ++ rest) = .ok (bytes, rest) := by
  obtain ⟨b, rfl, hb, hstring⟩ | ⟨hone, hstring⟩ := string_cases bytes
  · rw [hstring, readString, readPayload, List.cons_append, readHeader.eq_def]
    simp only
    rw [if_pos hb]
    rfl
  · rw [hstring, readString]
    exact readPayload_header false h (fun _ => hone) rest

/-! ## Every item takes a byte -/

theorem length_le_of_readLength {size n : Nat} {bytes rest : Bytes}
    (h : readLength size bytes = .ok (n, rest)) : rest.length ≤ bytes.length := by
  rw [readLength] at h
  split at h
  · exact absurd h nofun
  · rename_i hsplit
    obtain ⟨rfl, -⟩ := Bytes.split?_eq_some.1 hsplit
    split at h
    · exact absurd h nofun
    · simp only at h
      split at h <;> cases h
      simp

/-- A header takes a byte, unless it is the payload itself. -/
theorem length_lt_of_readHeader {isList : Bool} {n : Nat} {bytes rest : Bytes}
    (h : readHeader bytes = .ok (isList, n, rest)) : rest.length < bytes.length + n := by
  cases bytes with
  | nil => exact absurd h nofun
  | cons b bytes =>
    have hlong : ∀ (isList' : Bool) (size : Nat),
        (readLength size bytes).map (isList', ·) = .ok (isList, n, rest) →
          rest.length < (b :: bytes).length + n := by
      intro isList' size hread
      rcases hlength : readLength size bytes with e | ⟨n', rest'⟩ <;> rw [hlength] at hread <;>
        cases hread
      have := length_le_of_readLength hlength
      rw [List.length_cons]
      omega
    have hshort : ∀ (isList' : Bool) (n' : Nat),
        (.ok (isList', n', bytes) : Except Error _) = .ok (isList, n, rest) →
          rest.length < (b :: bytes).length + n := by
      intro isList' n' hread
      cases hread
      rw [List.length_cons]
      omega
    rw [readHeader.eq_def] at h
    simp only at h
    split at h
    · cases h
      omega
    · split at h
      · split at h
        · split at h
          · exact absurd h nofun
          · split at h
            · exact absurd h nofun
            · exact hshort _ _ h
        · exact hshort _ _ h
      · split at h
        · exact hlong _ _ h
        · split at h
          · exact hshort _ _ h
          · exact hlong _ _ h

/-- A string takes a byte. -/
theorem length_lt_of_readString {bytes item rest : Bytes}
    (h : readString bytes = .ok (item, rest)) : rest.length < bytes.length := by
  rw [readString, readPayload] at h
  rcases hheader : readHeader bytes with e | ⟨isList, n, behind⟩ <;> rw [hheader] at h
  · exact absurd h nofun
  · have hlt := length_lt_of_readHeader hheader
    simp only [bind, Except.bind] at h
    split at h
    · exact absurd h nofun
    · rename_i hsplit
      obtain ⟨rfl, hpayload⟩ := Bytes.split?_eq_some.1 hsplit
      split at h <;> cases h
      rw [List.length_append] at hlt
      omega

/-! ## Numbers, identifiers and lists -/

/-- A number is read, whatever follows it. -/
theorem readWord_append (w : Word) (rest : Bytes) : readWord (word w ++ rest) = .ok (w, rest) := by
  have hlength : (trimmed w.toNat).length ≤ 8 := length_trimmed_le w.toNat_lt
  rw [readWord, word, readString_append (by simp only [Nat.pow_eq]; omega)]
  simp only [bind, Except.bind]
  rw [if_neg (by omega), if_neg (head?_trimmed _), toNat_trimmed]
  simp

/-- A string of fixed length is read, whatever follows it. -/
theorem readFixed_append {n : Nat} (hn : n < Nat.pow 256 8) (fixed : BytesN n) (rest : Bytes) :
    readFixed n (string fixed.toList ++ rest) = .ok (fixed, rest) := by
  rw [readFixed, readString_append (by rw [fixed.length_toList]; exact hn)]
  simp only [bind, Except.bind, BytesN.ofList?]
  rw [dif_pos fixed.length_toList]

/-- Strings that fill a list are read back. -/
theorem readAll_flatMap_string {items : List Bytes}
    (h : ∀ item ∈ items, item.length < Nat.pow 256 8) :
    readAll [] (items.flatMap string).length (items.flatMap string) = .ok items := by
  have hloop : ∀ bytes, readAll [] bytes.length bytes =
      (wholeRow (row readString bytes)).map ([] ++ ·) := fun bytes =>
    eq_wholeRow_of_loop readString (fun _ _ => rfl)
      (fun _ _ bytes => by rw [readAll]; cases readString bytes <;> rfl) [] bytes.length bytes
  have htakes : TakesBytes readString := fun _ _ _ => length_lt_of_readString
  have hrow := row_append htakes (fun item hitem => readString_append (h item hitem)) []
  rw [List.append_nil, row_nil, List.append_nil] at hrow
  rw [hloop, hrow]
  rfl

/-- A string of a list is no longer than the list. -/
theorem length_le_length_flatMap_string {items : List Bytes} {item : Bytes} (h : item ∈ items) :
    item.length ≤ (items.flatMap string).length := by
  obtain ⟨before, after, rfl⟩ := List.append_of_mem h
  have := length_le_length_string item
  simp
  omega

/-- A list of strings is read, whatever follows it. -/
theorem readStrings_append {items : List Bytes}
    (h : (items.flatMap string).length < Nat.pow 256 8) (rest : Bytes) :
    readStrings (strings items ++ rest) = .ok (items, rest) := by
  have hitems : ∀ item ∈ items, item.length < Nat.pow 256 8 := fun item hitem =>
    Nat.lt_of_le_of_lt (length_le_length_flatMap_string hitem) h
  have hpayload := readPayload_header true h nofun rest
  rw [readStrings, strings, list]
  rw [shortCode, if_pos rfl] at hpayload
  rw [hpayload]
  simp only [bind, Except.bind]
  rw [readAll_flatMap_string hitems]
  rfl

end Rlp
end BatchInbox
