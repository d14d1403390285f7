import BatchInbox.Cache
import BatchInbox.Proofs.ChannelTable
import BatchInbox.Proofs.JsonText

/-!
# Files read back

What is kept on disk about a block is what was written there: every transaction is written as JSON
text that reads back as that transaction, whatever its fields are, and a file that is written for a
block is read for that block.

## What is here

* `Json.toWord?_ofWord`, `Json.toFixed?_ofBytes`, … — the members of records read back.
* `InboxTx.ofJson?_toJson` — a transaction reads back.
* `Disk.readEnvelope?_content` — the file of a block reads back.
* `Disk.load?_store?` — what was written is what is there, and nothing else changes.
* `Disk.load?_getD_store?`, `load?_getD_store?_self` — what is there behind an attempt to write.
-/

set_option autoImplicit false
namespace BatchInbox

/-! ## Members of records -/

namespace Json

theorem isWritten_ofWord (w : Word) : (ofWord w).IsWritten := .number w.toNat

/-- Hexadecimal digits need no escapes. -/
theorem escape_hex (bytes : Bytes) :
    escape ('0' :: 'x' :: bytes.toHexChars) = '0' :: 'x' :: bytes.toHexChars := by
  have hdigit : ∀ n : Fin 16, escapeChar (Bytes.hexDigit n) = [Bytes.hexDigit n] := by decide
  have hbytes : escape bytes.toHexChars = bytes.toHexChars := by
    induction bytes with
    | nil => rfl
    | cons b bytes ih =>
      have hhigh := hdigit ⟨b.toNat / 16, by have := b.toNat_lt; omega⟩
      have hlow := hdigit ⟨b.toNat % 16, Nat.mod_lt _ (by decide)⟩
      simp only [escape, Bytes.toHexChars, List.flatMap_cons, List.flatMap_append,
        List.flatMap_nil, List.append_nil, hhigh, hlow] at ih ⊢
      rw [ih]
      rfl
  show escapeChar '0' ++ (escapeChar 'x' ++ escape bytes.toHexChars) = _
  rw [hbytes]
  rfl

theorem isWritten_ofBytes (bytes : Bytes) : (ofBytes bytes).IsWritten := by
  rw [ofBytes, ← escape_hex]
  exact .string _

theorem isWritten_ofFields {fields : List (String × Json)}
    (h : ∀ field ∈ fields, field.2.IsWritten) : (ofFields fields).IsWritten := by
  refine .object (fun field hfield => ?_) fun field hfield => ?_
  · obtain ⟨field, -, rfl⟩ := List.mem_map.1 hfield
    exact ⟨field.1.toList, rfl⟩
  · obtain ⟨field, hmem, rfl⟩ := List.mem_map.1 hfield
    exact h field hmem

/-- A word reads back. -/
@[simp]
theorem toWord?_ofWord (w : Word) : (ofWord w).toWord? = some w := by
  obtain ⟨c, cs, hdigits, hc, -⟩ := digits_eq_cons w.toNat
  have hread : (Decimal.read? (Decimal.digits w.toNat)).bind Word.ofNat? = some w := by
    rw [Decimal.read?_digits]
    exact Word.ofNat?_eq_some.2 rfl
  rw [ofWord, toWord?, Number.ofToken]
  · rw [hread]
  · intro unsigned hunsigned
    rw [hdigits] at hunsigned
    rw [(List.cons.inj hunsigned).1] at hc
    exact absurd hc (by decide)

/-- A byte reads back. -/
@[simp]
theorem toByte?_ofWord (b : UInt8) : (ofWord b.toUInt64).toByte? = some b := by
  have hb := b.toNat_lt
  rw [toByte?, toBounded?, toWord?_ofWord, Option.bind_some, if_pos (by simpa using hb)]
  simp

/-- Bytes read back. -/
@[simp]
theorem toBytes?_ofBytes (bytes : Bytes) : (ofBytes bytes).toBytes? = some bytes := by
  rw [ofBytes, ← escape_hex, toBytes?, unescape?_escape]
  exact Bytes.ofHexChars_toHexChars [] bytes

/-- A given number of bytes reads back. -/
@[simp]
theorem toFixed?_ofBytes {n : Nat} (bytes : BytesN n) :
    (ofBytes bytes.toList).toFixed? n = some bytes := by
  rw [toFixed?, toBytes?_ofBytes, Option.bind_some, BytesN.ofList?, dif_pos bytes.length_toList]

/-- What reads back one by one reads back all together. -/
theorem mapM_map {α β : Type} {read : β → Option α} {write : α → β} {items : List α}
    (h : ∀ a ∈ items, read (write a) = some a) : (items.map write).mapM read = some items := by
  induction items with
  | nil => rfl
  | cons a items ih =>
    obtain ⟨ha, hitems⟩ := List.forall_mem_cons.1 h
    rw [List.map_cons, List.mapM_cons, ha, ih hitems]
    rfl

@[simp]
theorem toList?_array {α : Type} {read : Json → Option α} {write : α → Json} {items : List α}
    (h : ∀ a ∈ items, read (write a) = some a) :
    (array (items.map write)).toList? read = some items :=
  mapM_map h

/-- The members of a record that is written as an object. -/
theorem members?_ofFields (members : List Member) (fields : List (String × Json)) :
    (ofFields fields).members? members = members.mapM (·.find? fields) := by
  have hfields : (fields.map fun field => (escape field.1.toList, field.2)).mapM readField? =
      some fields :=
    mapM_map fun field _ => by simp [readField?, unescape?_escape]
  rw [ofFields, members?, hfields, Option.bind_some]

end Json

/-! ## Transactions -/

namespace InboxTx
open Json (IsWritten)

theorem isWritten_listField {α : Type} {name : String} {write : α → Json} {items : List α}
    (h : ∀ a, (write a).IsWritten) {field : String × Json}
    (hfield : field ∈ listField name write items) : field.2.IsWritten := by
  rw [listField] at hfield
  split at hfield
  · exact absurd hfield List.not_mem_nil
  · rw [List.mem_singleton.1 hfield]
    refine .array fun item hitem => ?_
    obtain ⟨a, -, rfl⟩ := List.mem_map.1 hitem
    exact h a

theorem isWritten_toJson (tx : InboxTx) : tx.toJson.IsWritten := by
  refine Json.isWritten_ofFields fun field hfield => ?_
  rcases List.mem_append.1 hfield with hfield | hfield
  · rcases List.mem_append.1 hfield with hfield | hfield
    · simp only [List.mem_cons, List.not_mem_nil, or_false] at hfield
      rcases hfield with rfl | rfl | rfl | rfl | rfl | rfl | rfl | rfl
      all_goals first | exact Json.isWritten_ofWord _ | exact Json.isWritten_ofBytes _
    · exact isWritten_listField (fun h : Hash => Json.isWritten_ofBytes h.toList) hfield
  · exact isWritten_listField Json.isWritten_ofWord hfield

/-- A list that was left out is read as the empty one. -/
theorem defaulted?_listField {α : Type} {read : Json → Option α} {write : α → Json}
    (h : ∀ a, read (write a) = some a) (items : List α) :
    Json.defaulted? [] (Json.toList? read)
      (if items.isEmpty then none else some (.array (items.map write))) = some items := by
  cases items with
  | nil => rfl
  | cons a items => exact Json.toList?_array fun a _ => h a

/-- **A transaction reads back.** -/
theorem ofJson?_toJson (tx : InboxTx) : ofJson? tx.toJson = some tx := by
  have hmembers : tx.toJson.members? members =
      some [some (.ofWord tx.block), some (.ofWord tx.time), some (.ofWord tx.index),
        some (.ofBytes tx.hash.toList), some (.ofBytes tx.sender.toList),
        some (.ofBytes tx.recipient.toList), some (.ofWord tx.type.toUInt64),
        some (.ofBytes tx.calldata),
        if tx.blobHashes.isEmpty then none else
          some (.array (tx.blobHashes.map fun h => .ofBytes h.toList)),
        if tx.blobIndices.isEmpty then none else some (.array (tx.blobIndices.map .ofWord))] := by
    rw [toJson, Json.members?_ofFields]
    by_cases hhashes : tx.blobHashes.isEmpty <;> by_cases hindices : tx.blobIndices.isEmpty <;>
      simp [members, listField, Json.Member.find?, Json.Member.required, Json.Member.defaulted,
        hhashes, hindices]
  have hhashes := defaulted?_listField (fun h : Hash => Json.toFixed?_ofBytes h) tx.blobHashes
  have hindices := defaulted?_listField Json.toWord?_ofWord tx.blobIndices
  simp only [List.isEmpty_iff] at hmembers hhashes hindices
  simp [ofJson?, hmembers, Json.required?, hhashes, hindices]

end InboxTx

/-! ## Files -/

namespace Disk

theorem isWritten_content (n : Word) (txs : List InboxTx) :
    (Json.ofFields
      [("schemaVersion", .ofWord schemaVersion), ("blockNumber", .ofWord n),
        ("transactions", .array (txs.map InboxTx.toJson))]).IsWritten := by
  refine Json.isWritten_ofFields fun field hfield => ?_
  simp only [List.mem_cons, List.not_mem_nil, or_false] at hfield
  rcases hfield with rfl | rfl | rfl
  · exact Json.isWritten_ofWord schemaVersion
  · exact Json.isWritten_ofWord n
  · refine .array fun item hitem => ?_
    obtain ⟨tx, -, rfl⟩ := List.mem_map.1 hitem
    exact tx.isWritten_toJson

/-- **The file of a block reads back.** -/
theorem readEnvelope?_content (n : Word) (txs : List InboxTx) :
    (Json.parse? (content n txs)).bind (readEnvelope? n) = some txs := by
  have hversion : Json.toBounded? UInt32.size (.ofWord schemaVersion) = some schemaVersion := by
    rw [Json.toBounded?, Json.toWord?_ofWord]
    rfl
  have htxs : Json.toList? InboxTx.ofJson? (.array (txs.map InboxTx.toJson)) = some txs :=
    Json.toList?_array fun tx _ => tx.ofJson?_toJson
  have hmembers : (Json.ofFields
      [("schemaVersion", .ofWord schemaVersion), ("blockNumber", .ofWord n),
        ("transactions", .array (txs.map InboxTx.toJson))]).members? members =
      some [some (.ofWord schemaVersion), some (.ofWord n),
        some (.array (txs.map InboxTx.toJson))] := by
    rw [Json.members?_ofFields]
    simp [members, Json.Member.find?, Json.Member.required]
  rw [content, Json.parse?_render (isWritten_content n txs), Option.bind_some, readEnvelope?,
    readJson?, hmembers]
  simp [Json.required?, hversion, htxs]

/-! ## The data directory -/

variable {d : Disk} {chain n : Word}

theorem find?_put_self (d : Disk) (chain n : Word) (entry : Entry) :
    (d.put chain n entry).find? chain n = some entry := by
  rw [find?, put, List.lookup_cons_self]

theorem find?_put_of_ne {chain' n' : Word} (h : (chain', n') ≠ (chain, n)) (entry : Entry) :
    (d.put chain n entry).find? chain' n' = d.find? chain' n' := by
  rw [find?, put, List.lookup_cons, beq_false_of_ne h]
  exact lookup_filter_of_ne h (by simp) d.entries

/-- Transactions cannot be written where there is a directory. -/
theorem store?_eq_none_iff {txs : List InboxTx} :
    d.store? chain n txs = none ↔ d.find? chain n = some .directory := by
  rw [store?]
  split
  · rename_i hdirectory
    exact iff_of_true rfl hdirectory
  · rename_i hother
    exact iff_of_false nofun hother

theorem load?_congr {d' : Disk} (h : d'.find? chain n = d.find? chain n) :
    d'.load? chain n = d.load? chain n := by
  rw [load?, load?, h]

/-- A store that succeeded has put the file of the block at its place. -/
theorem eq_put_of_store? {d' : Disk} {txs : List InboxTx} (h : d.store? chain n txs = some d') :
    d' = d.put chain n (.file (content n txs)) := by
  rw [store?] at h
  split at h <;> cases h
  rfl

/-- **What was written is what is there.** -/
theorem load?_of_store? {d' : Disk} {txs : List InboxTx} (h : d.store? chain n txs = some d') :
    d'.load? chain n = some txs := by
  rw [eq_put_of_store? h, load?, find?_put_self]
  exact readEnvelope?_content n txs

/-- **One store**: the transactions are loaded for the block, and for all other blocks what was loaded
before. -/
theorem load?_store? {d' : Disk} {txs : List InboxTx} (h : d.store? chain n txs = some d')
    (chain' n' : Word) :
    d'.load? chain' n' = if (chain', n') = (chain, n) then some txs else d.load? chain' n' := by
  split
  · rename_i hkey
    cases hkey
    exact load?_of_store? h
  · rename_i hkey
    rw [eq_put_of_store? h]
    exact load?_congr (find?_put_of_ne hkey _)

/-- Nothing else changes. -/
theorem find?_getD_store?_of_ne {chain' n' : Word} (h : (chain', n') ≠ (chain, n))
    (txs : List InboxTx) :
    ((d.store? chain n txs).getD d).find? chain' n' = d.find? chain' n' := by
  rw [store?]
  split
  · rfl
  · exact find?_put_of_ne h _

/-- What is on disk behind an attempt to write was written now, or was there before. -/
theorem load?_getD_store? {chain' n' : Word} {txs txs' : List InboxTx}
    (h : ((d.store? chain n txs).getD d).load? chain' n' = some txs') :
    ((chain', n') = (chain, n) ∧ txs' = txs) ∨ d.load? chain' n' = some txs' := by
  cases hstore : d.store? chain n txs with
  | none =>
    rw [hstore] at h
    exact .inr h
  | some d' =>
    rw [hstore, Option.getD_some, load?_store? hstore] at h
    split at h
    · rename_i hkey
      exact .inl ⟨hkey, (Option.some.inj h).symm⟩
    · exact .inr h

/-- Where there is no directory, an attempt to write succeeds. -/
theorem load?_getD_store?_self {txs : List InboxTx}
    (h : d.find? chain n ≠ some .directory) :
    ((d.store? chain n txs).getD d).load? chain n = some txs := by
  cases hstore : d.store? chain n txs with
  | none => exact absurd (store?_eq_none_iff.1 hstore) h
  | some d' => exact load?_of_store? hstore

end Disk

end BatchInbox
