import BatchInbox.Bytes

/-!
# Encodings that say where they end

A reader that takes its input from the front of a byte string has to know where to stop.  If the
encoding tells it, two things follow: whatever stands behind the encoding is left alone, and an
encoding that is cut short is never taken for a whole one.

Where the cut falls decides on the error.  So an encoding is laid out in parts, each with the error
of a reader that finds it cut short, and a reader is put together from readers of the parts.

## What is here

* `Bytes.IsCutShort` — something is missing at the end.
* `Layout` — an encoding in parts; `Layout.CutAt` says in which part it is cut short.
* `Delimits` — a reader stops where a layout ends; `Delimits.bind` puts readers together.
* `Bytes.delimits_readFront`, `BytesN.delimits_readFront` — the readers of parts of a fixed length.
-/

set_option autoImplicit false
namespace BatchInbox

/-! ## Cutting short -/

/-- The string lacks something at its end of being `whole`. -/
def Bytes.IsCutShort (cut whole : Bytes) : Prop := ∃ missing, missing ≠ [] ∧ cut ++ missing = whole

theorem Bytes.isCutShort_iff {cut whole : Bytes} :
    cut.IsCutShort whole ↔ cut <+: whole ∧ cut ≠ whole := by
  constructor
  · rintro ⟨missing, hmissing, rfl⟩
    exact ⟨List.prefix_append .., by simpa [eq_comm] using hmissing⟩
  · rintro ⟨⟨missing, rfl⟩, hne⟩
    exact ⟨missing, fun hmissing => hne (by simp [hmissing]), rfl⟩

theorem Bytes.IsCutShort.length_lt {cut whole : Bytes} (h : cut.IsCutShort whole) :
    cut.length < whole.length := by
  obtain ⟨missing, hmissing, rfl⟩ := h
  have := List.length_pos_iff.2 hmissing
  rw [List.length_append]
  omega

/-- Of two strings that stand one behind the other, the first is cut short, or the second is. -/
theorem Bytes.IsCutShort.of_append {cut first second : Bytes}
    (h : cut.IsCutShort (first ++ second)) :
    cut.IsCutShort first ∨ ∃ cut', cut = first ++ cut' ∧ cut'.IsCutShort second := by
  obtain ⟨missing, hmissing, happend⟩ := h
  rcases List.append_eq_append_iff.1 happend with ⟨rest, hfirst, hrest⟩ | ⟨cut', hcut, hsecond⟩
  · cases rest with
    | nil =>
      rw [List.append_nil] at hfirst
      exact .inr ⟨[], by simp [hfirst], missing, hmissing, by simpa using hrest⟩
    | cons b rest => exact .inl ⟨b :: rest, List.cons_ne_nil b rest, hfirst.symm⟩
  · exact .inr ⟨cut', hcut, missing, hmissing, hsecond.symm⟩

/-! ## Layouts -/

/-- The parts of an encoding.  With each goes the error of a reader that finds it cut short. -/
abbrev Layout (ε : Type) := List (ε × Bytes)

namespace Layout
variable {ε : Type}

/-- The parts, one behind the other. -/
def bytes (layout : Layout ε) : Bytes := layout.flatMap (·.2)

/-- An encoding that is cut short, with the error of the part in which the cut falls. -/
inductive CutAt : Layout ε → Bytes → ε → Prop
  | within {error : ε} {part cut : Bytes} {layout : Layout ε} (h : cut.IsCutShort part) :
      CutAt ((error, part) :: layout) cut error
  | behind {error : ε} {part : ε × Bytes} {cut : Bytes} {layout : Layout ε}
      (h : CutAt layout cut error) : CutAt (part :: layout) (part.2 ++ cut) error

@[simp]
theorem bytes_nil : bytes ([] : Layout ε) = [] := rfl

@[simp]
theorem bytes_cons (part : ε × Bytes) (layout : Layout ε) :
    bytes (part :: layout) = part.2 ++ layout.bytes := List.flatMap_cons

@[simp]
theorem bytes_append (layout layout' : Layout ε) :
    bytes (layout ++ layout') = layout.bytes ++ layout'.bytes := List.flatMap_append

/-- A cut falls into some part. -/
theorem exists_cutAt {layout : Layout ε} {cut : Bytes} (h : cut.IsCutShort layout.bytes) :
    ∃ error, layout.CutAt cut error := by
  induction layout generalizing cut with
  | nil => exact absurd h.length_lt (Nat.not_lt_zero _)
  | cons part layout ih =>
    rw [bytes_cons] at h
    rcases h.of_append with hpart | ⟨cut, rfl, hcut⟩
    · exact ⟨part.1, .within hpart⟩
    · obtain ⟨error, herror⟩ := ih hcut
      exact ⟨error, .behind herror⟩

/-- Of two layouts one behind the other, the first is cut short, or the second is. -/
theorem CutAt.of_append {layout layout' : Layout ε} {cut : Bytes} {error : ε}
    (h : CutAt (layout ++ layout') cut error) :
    layout.CutAt cut error ∨ ∃ cut', cut = layout.bytes ++ cut' ∧ layout'.CutAt cut' error := by
  induction layout generalizing cut with
  | nil => exact .inr ⟨cut, rfl, h⟩
  | cons part layout ih =>
    cases h with
    | within hcut => exact .inl (.within hcut)
    | behind hcut =>
      rcases ih hcut with hfirst | ⟨cut', rfl, hsecond⟩
      · exact .inl (.behind hfirst)
      · exact .inr ⟨cut', by simp, hsecond⟩

/-- The error of a cut is that of a part. -/
theorem CutAt.error_mem {layout : Layout ε} {cut : Bytes} {error : ε} (h : layout.CutAt cut error) :
    error ∈ layout.map (·.1) := by
  induction h with
  | within _ => exact List.mem_cons_self
  | behind _ ih => exact List.mem_cons_of_mem _ ih

end Layout

/-! ## Readers -/

/-- The reader stops where the layout ends, with a value that may hold what stands behind it.  A layout
that is cut short gives the error of the part in which the cut falls. -/
structure Delimits {ε α : Type} (read : Bytes → Except ε α) (layout : Layout ε)
    (value : Bytes → α) : Prop where
  whole : ∀ rest, read (layout.bytes ++ rest) = .ok (value rest)
  cut : ∀ {cut error}, layout.CutAt cut error → read cut = .error error

namespace Delimits
variable {ε α β : Type} {read : Bytes → Except ε α} {layout : Layout ε} {value : Bytes → α}

/-- A reader of one part. -/
theorem single {error : ε} {part : Bytes} (hwhole : ∀ rest, read (part ++ rest) = .ok (value rest))
    (hcut : ∀ cut, cut.IsCutShort part → read cut = .error error) :
    Delimits read [(error, part)] value where
  whole rest := by simpa using hwhole rest
  cut h := by
    cases h with
    | within h => exact hcut _ h
    | behind h => cases h

/-- **Readers one behind the other**: the second goes on where the first has stopped. -/
theorem bind {a : α} {read : Bytes → Except ε (α × Bytes)} {next : α × Bytes → Except ε β}
    {layout' : Layout ε} {value : Bytes → β} (h : Delimits read layout fun rest => (a, rest))
    (hnext : Delimits (fun rest => next (a, rest)) layout' value) :
    Delimits (fun bytes => read bytes >>= next) (layout ++ layout') value where
  whole rest := by
    rw [Layout.bytes_append, List.append_assoc, h.whole]
    exact hnext.whole rest
  cut hcut := by
    rcases hcut.of_append with hfirst | ⟨cut', rfl, hsecond⟩
    · rw [h.cut hfirst]
      rfl
    · rw [h.whole]
      exact hnext.cut hsecond

/-- The last reader is followed by a step that reads nothing. -/
theorem last {a : α} {read : Bytes → Except ε (α × Bytes)} {next : α × Bytes → Except ε β}
    {value : Bytes → β} (h : Delimits read layout fun rest => (a, rest))
    (hnext : ∀ rest, next (a, rest) = .ok (value rest)) :
    Delimits (fun bytes => read bytes >>= next) layout value where
  whole rest := by
    rw [h.whole]
    exact hnext rest
  cut hcut := by
    rw [h.cut hcut]
    rfl

theorem congr {read' : Bytes → Except ε α} (h : Delimits read layout value)
    (hread : ∀ bytes, read' bytes = read bytes) : Delimits read' layout value := by
  rwa [funext hread]

end Delimits

/-! ## Fixed lengths -/

section
variable {ε : Type}

/-- Reads `count` bytes. -/
def Bytes.readFront (error : ε) (count : Nat) (bytes : Bytes) : Except ε (Bytes × Bytes) :=
  match bytes.split? count with
  | none => .error error
  | some read => .ok read

theorem Bytes.delimits_readFront {count : Nat} {part : Bytes} (h : part.length = count) (error : ε) :
    Delimits (readFront error count) [(error, part)] fun rest => (part, rest) :=
  .single (fun rest => by rw [readFront, split?_append h]) fun cut hcut => by
    rw [readFront, split?_eq_none.2 (h ▸ hcut.length_lt)]

/-- Reads a string of a fixed length. -/
def BytesN.readFront (error : ε) (n : Nat) (bytes : Bytes) : Except ε (BytesN n × Bytes) :=
  match split? n bytes with
  | none => .error error
  | some read => .ok read

theorem BytesN.split?_of_lt {n : Nat} {bytes : Bytes} (h : bytes.length < n) :
    split? n bytes = none := by
  rw [split?]
  split
  · rfl
  · rename_i hsplit
    rw [Bytes.split?_eq_none.2 h] at hsplit
    cases hsplit

theorem BytesN.delimits_readFront {n : Nat} (part : BytesN n) (error : ε) :
    Delimits (readFront error n) [(error, part.toList)] fun rest => (part, rest) :=
  .single (fun rest => by rw [readFront, split?_append]) fun cut hcut => by
    rw [readFront, split?_of_lt (part.length_toList ▸ hcut.length_lt)]

end

end BatchInbox
