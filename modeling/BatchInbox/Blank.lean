/-!
# Blank space

The characters that stand for blank space in any script, which texts from outside may have around
them.
-/

set_option autoImplicit false
namespace BatchInbox

/-- A character that stands for blank space. -/
def isBlankSpace (c : Char) : Bool :=
  let n := c.toNat
  (9 ≤ n && n ≤ 13) || (0x2000 ≤ n && n ≤ 0x200a) ||
    [0x20, 0x85, 0xa0, 0x1680, 0x2028, 0x2029, 0x202f, 0x205f, 0x3000].contains n

/-- What the core library takes for blank space is blank space. -/
theorem isBlankSpace_of_isWhitespace {c : Char} (h : c.isWhitespace = true) :
    isBlankSpace c = true := by
  simp only [Char.isWhitespace, Bool.or_eq_true, decide_eq_true_eq] at h
  rcases h with ((rfl | rfl) | rfl) | rfl <;> decide

/-- The text without the blank space around it. -/
def trimBlankSpace (text : List Char) : List Char :=
  ((text.dropWhile isBlankSpace).reverse.dropWhile isBlankSpace).reverse

end BatchInbox
