/-!
# 64-bit numbers

Block numbers, timestamps and counts are 64-bit words.  Their arithmetic never wraps: a sum or
product that does not fit is either refused, or stands for the largest word.  A difference below
zero is refused, or stands for zero.
-/

set_option autoImplicit false
namespace BatchInbox

/-- A block number, a timestamp or a count. -/
abbrev Word := UInt64

namespace Word

/-- The largest word. -/
def max : Word := 0xffffffffffffffff

/-- The word for a number, if there is one. -/
def ofNat? (n : Nat) : Option Word :=
  if n < UInt64.size then some n.toUInt64 else none

/-- The word for a number, or the largest one. -/
def ofNatSat (n : Nat) : Word :=
  if n < UInt64.size then n.toUInt64 else max

/-- The sum, if it fits. -/
def add? (a b : Word) : Option Word := ofNat? (a.toNat + b.toNat)

/-- The product, if it fits. -/
def mul? (a b : Word) : Option Word := ofNat? (a.toNat * b.toNat)

/-- The difference, if it is not below zero. -/
def sub? (a b : Word) : Option Word := if b ≤ a then some (a - b) else none

/-- The sum, or the largest word. -/
def addSat (a b : Word) : Word := ofNatSat (a.toNat + b.toNat)

/-- The product, or the largest word. -/
def mulSat (a b : Word) : Word := ofNatSat (a.toNat * b.toNat)

/-- The difference, or zero. -/
def subSat (a b : Word) : Word := if b ≤ a then a - b else 0

@[simp]
theorem toNat_max : max.toNat = UInt64.size - 1 := rfl

theorem ofNat?_eq_some {n : Nat} {w : Word} : ofNat? n = some w ↔ w.toNat = n := by
  unfold ofNat?
  split
  · rename_i h
    constructor
    · rintro ⟨⟩
      exact UInt64.toNat_ofNat_of_lt h
    · rintro rfl
      simp
  · rename_i h
    constructor
    · nofun
    · rintro rfl
      exact absurd w.toNat_lt h

theorem ofNat?_eq_none {n : Nat} : ofNat? n = none ↔ UInt64.size ≤ n := by
  unfold ofNat?
  split <;> simp <;> omega

@[simp]
theorem toNat_ofNatSat (n : Nat) : (ofNatSat n).toNat = min n (UInt64.size - 1) := by
  unfold ofNatSat
  split
  · rename_i h
    simp only [Nat.toUInt64_eq, UInt64.toNat_ofNat', Nat.mod_eq_of_lt h]
    omega
  · rw [toNat_max]
    omega

theorem add?_eq_some {a b c : Word} : add? a b = some c ↔ c.toNat = a.toNat + b.toNat :=
  ofNat?_eq_some

theorem sub?_eq_some {a b c : Word} : sub? a b = some c ↔ a.toNat = b.toNat + c.toNat := by
  unfold sub?
  split
  · rename_i h
    have hle := UInt64.le_iff_toNat_le.1 h
    have hsub := UInt64.toNat_sub_of_le a b h
    constructor
    · rintro ⟨⟩
      omega
    · intro hc
      rw [Option.some.injEq, ← UInt64.toNat_inj]
      omega
  · rename_i h
    rw [UInt64.le_iff_toNat_le] at h
    constructor
    · nofun
    · omega

/-- The next word is the least one behind. -/
theorem add?_one_eq_some {a b : Word} (h : add? a 1 = some b) : a < b ∧ ∀ c, a < c → b ≤ c := by
  have hb : b.toNat = a.toNat + 1 := add?_eq_some.1 h
  simp only [UInt64.lt_iff_toNat_lt, UInt64.le_iff_toNat_le]
  exact ⟨by omega, fun c hc => by omega⟩

/-- There is no next word behind the largest one. -/
theorem add?_one_eq_none {a : Word} (h : add? a 1 = none) (b : Word) : b ≤ a := by
  have ha : UInt64.size ≤ a.toNat + 1 := ofNat?_eq_none.1 h
  have hb := b.toNat_lt
  rw [UInt64.le_iff_toNat_le]
  simp only [UInt64.size] at ha
  omega

theorem add?_one_eq_none_iff {a : Word} : add? a 1 = none ↔ a = max := by
  refine ofNat?_eq_none.trans ?_
  have ha := a.toNat_lt
  rw [← UInt64.toNat_inj, toNat_max, UInt64.toNat_one]
  simp only [UInt64.size]
  omega

/-- The word behind one that is not the largest. -/
theorem add_one_of_lt {a b : Word} (h : a < b) :
    (a + 1).toNat = a.toNat + 1 ∧ a < a + 1 ∧ a + 1 ≤ b := by
  have hb := b.toNat_lt
  rw [UInt64.lt_iff_toNat_lt] at h
  have hadd : (a + 1).toNat = a.toNat + 1 := by
    rw [UInt64.toNat_add, UInt64.toNat_one, Nat.mod_eq_of_lt (by omega)]
  rw [UInt64.lt_iff_toNat_lt, UInt64.le_iff_toNat_le]
  omega

/-- The word in front of one that is not zero. -/
theorem sub_one_of_lt {a b : Word} (h : a < b) :
    (b - 1).toNat + 1 = b.toNat ∧ b - 1 < b ∧ a ≤ b - 1 := by
  rw [UInt64.lt_iff_toNat_lt] at h
  have hsub : (b - 1).toNat = b.toNat - 1 := by
    refine UInt64.toNat_sub_of_le b 1 ?_
    rw [UInt64.le_iff_toNat_le, UInt64.toNat_one]
    omega
  rw [UInt64.lt_iff_toNat_lt, UInt64.le_iff_toNat_le]
  omega

@[simp]
theorem toNat_addSat (a b : Word) :
    (addSat a b).toNat = min (a.toNat + b.toNat) (UInt64.size - 1) :=
  toNat_ofNatSat _

theorem le_addSat {a b c : Word} (h : c.toNat ≤ a.toNat + b.toNat) : c ≤ addSat a b := by
  have := c.toNat_lt
  rw [UInt64.le_iff_toNat_le, toNat_addSat]
  simp only [UInt64.size]
  omega

@[simp]
theorem toNat_mulSat (a b : Word) :
    (mulSat a b).toNat = min (a.toNat * b.toNat) (UInt64.size - 1) :=
  toNat_ofNatSat _

@[simp]
theorem toNat_subSat (a b : Word) : (subSat a b).toNat = a.toNat - b.toNat := by
  unfold subSat
  split
  · rename_i h
    exact UInt64.toNat_sub_of_le a b h
  · rename_i h
    rw [UInt64.le_iff_toNat_le] at h
    simp
    omega

end Word
end BatchInbox
