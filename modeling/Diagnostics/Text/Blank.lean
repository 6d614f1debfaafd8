/-!
# Blanks

The characters that count as blank at the ends of a text. The class is wider than that of core's
`Char.isWhitespace`: it has the control characters that separate records and all Unicode spaces.
-/

namespace Diagnostics.Text

/-- Whether a character is blank. -/
def isBlank (c : Char) : Bool :=
  let n := c.toNat
  (0x09 ≤ n && n ≤ 0x0d) || (0x1c ≤ n && n ≤ 0x20) || n == 0x85 || n == 0xa0 || n == 0x1680 ||
    (0x2000 ≤ n && n ≤ 0x200a) || n == 0x2028 || n == 0x2029 || n == 0x202f || n == 0x205f ||
    n == 0x3000

/-- Characters without the blanks they begin with. -/
def dropBlanks (cs : List Char) : List Char :=
  cs.dropWhile isBlank

/-- Characters without the blanks they end with. -/
def dropTrailingBlanks (cs : List Char) : List Char :=
  (dropBlanks cs.reverse).reverse

/-- A text without the blanks at its end. -/
def trimEnd (s : String) : String :=
  String.ofList (dropTrailingBlanks s.toList)

/-- A text without the blanks at either end. -/
def trim (s : String) : String :=
  String.ofList (dropTrailingBlanks (dropBlanks s.toList))

/-- Every character that core calls whitespace is blank. -/
theorem isBlank_of_isWhitespace {c : Char} (h : c.isWhitespace = true) : isBlank c = true := by
  simp only [Char.isWhitespace, Bool.or_eq_true, decide_eq_true_eq] at h
  rcases h with ((h | h) | h) | h <;> subst h <;> decide

end Diagnostics.Text
