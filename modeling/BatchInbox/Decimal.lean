import BatchInbox.Word

/-!
# Decimal numbers

Numbers are written with the fewest digits, and read with any number of leading zeros.

## What is here

* `Decimal.digits`, `Decimal.read?` — writing and reading; `read?_digits` says that a number reads
  back.
* `Decimal.readWord?` — reads a word, which may have a plus sign.
-/

set_option autoImplicit false
namespace BatchInbox.Decimal

/-- The digit for a value below ten. -/
def digit (value : Nat) : Char := Char.ofNat (48 + value)

/-- The digits of a number. -/
def digits (n : Nat) : List Char :=
  if n < 10 then [digit n] else digits (n / 10) ++ [digit (n % 10)]
  termination_by n
  decreasing_by omega

/-- A character is a decimal digit. -/
def isDigit (c : Char) : Bool := 48 ≤ c.toNat && c.toNat ≤ 57

/-- The number that digits stand for. -/
def value (text : List Char) : Nat := text.foldl (fun n c => 10 * n + (c.toNat - 48)) 0

/-- Reads a number: one digit or more, and nothing else. -/
def read? (text : List Char) : Option Nat :=
  if text ≠ [] ∧ text.all isDigit then some (value text) else none

/-- Reads a word, which may have a plus sign. -/
def readWord? (text : List Char) : Option Word :=
  match text with
  | '+' :: text => (read? text).bind Word.ofNat?
  | text => (read? text).bind Word.ofNat?

theorem isDigit_digit {n : Nat} (h : n < 10) : isDigit (digit n) = true := by
  have : ∀ n : Fin 10, isDigit (digit n) = true := by decide
  exact this ⟨n, h⟩

theorem toNat_digit {n : Nat} (h : n < 10) : (digit n).toNat = 48 + n := by
  have : ∀ n : Fin 10, (digit n).toNat = 48 + n := by decide
  exact this ⟨n, h⟩

theorem digits_ne_nil (n : Nat) : digits n ≠ [] := by
  unfold digits
  split <;> simp

theorem isDigit_of_mem_digits {n : Nat} {c : Char} (h : c ∈ digits n) : isDigit c = true := by
  fun_induction digits n with
  | case1 n hn =>
    rw [List.mem_singleton] at h
    exact h ▸ isDigit_digit hn
  | case2 n hn ih =>
    rcases List.mem_append.1 h with h | h
    · exact ih h
    · rw [List.mem_singleton] at h
      exact h ▸ isDigit_digit (Nat.mod_lt _ (by decide))

@[simp]
theorem value_digits (n : Nat) : value (digits n) = n := by
  fun_induction digits n with
  | case1 n hn => simp [value, toNat_digit hn]
  | case2 n hn ih =>
    rw [value, List.foldl_append]
    simp only [value] at ih
    simp only [ih, List.foldl_cons, List.foldl_nil, toNat_digit (Nat.mod_lt n (by decide : 0 < 10))]
    omega

/-- A number reads back. -/
theorem read?_digits (n : Nat) : read? (digits n) = some n := by
  have hall : (digits n).all isDigit = true :=
    List.all_eq_true.2 fun _ h => isDigit_of_mem_digits h
  rw [read?, if_pos ⟨digits_ne_nil n, hall⟩, value_digits]

end BatchInbox.Decimal
