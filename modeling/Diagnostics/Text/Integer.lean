import Diagnostics.Text.Blank
import Diagnostics.Text.Digit

/-!
# Integers in texts

An integer may have blanks around it and a sign, its digits may be of any script, and single
underscores may stand between digits. The record separators are the one kind of blank that is not
allowed, and a text with too many digits is not read at all.
-/

namespace Diagnostics.Text

/-- The most digits that an integer may have. -/
def maximumDigits : Nat := 4300

/-- Whether a character may stand around an integer. -/
def isIntegerBlank (c : Char) : Bool :=
  isBlank c && !(0x1c ≤ c.toNat && c.toNat ≤ 0x1f)

/-- The values of digits, where `afterDigit` says that a digit stands before them. An underscore
must have a digit on either side. -/
def digitValues? (afterDigit : Bool) : List Char → Option (List Nat)
  | [] => if afterDigit then some [] else none
  | c :: cs =>
    if c = '_' then
      if afterDigit then digitValues? false cs else none
    else
      match digitValue? c with
      | none => none
      | some d => (digitValues? true cs).map (d :: ·)

/-- The number with the given digits. -/
def ofDigitValues (digits : List Nat) : Nat :=
  digits.foldl (fun n d => 10 * n + d) 0

/-- An integer without a sign. -/
def natural? (cs : List Char) : Option Nat :=
  match digitValues? false cs with
  | none => none
  | some digits => if digits.length ≤ maximumDigits then some (ofDigitValues digits) else none

/-- Characters without the blanks around an integer. -/
def trimInteger (cs : List Char) : List Char :=
  ((cs.dropWhile isIntegerBlank).reverse.dropWhile isIntegerBlank).reverse

/-- The integer that a text stands for. -/
def integer? (s : String) : Option Int :=
  match trimInteger s.toList with
  | '-' :: cs => (natural? cs).map fun n => -(n : Int)
  | '+' :: cs => (natural? cs).map Int.ofNat
  | cs => (natural? cs).map Int.ofNat

end Diagnostics.Text
