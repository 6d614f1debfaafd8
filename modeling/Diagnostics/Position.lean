/-!
# Positions

A position in a source is a line and a column, both counted from one, and the offset in octets.
Columns count characters and offsets count the octets of their UTF-8 encoding.
-/

namespace Diagnostics

/-- The number of octets that characters take up in UTF-8. -/
def octetCount : List Char → Nat
  | [] => 0
  | c :: cs => c.utf8Size + octetCount cs

/-- A place between two characters of a source. -/
structure Position where
  line : Nat
  column : Nat
  offset : Nat
  deriving DecidableEq, Repr

namespace Position

/-- The position before the first character. -/
def start : Position :=
  ⟨1, 1, 0⟩

/-- The position after one more character. A line feed belongs to the line that it ends. -/
def advance (p : Position) (c : Char) : Position :=
  if c = '\n' then ⟨p.line + 1, 1, p.offset + c.utf8Size⟩
  else ⟨p.line, p.column + 1, p.offset + c.utf8Size⟩

/-- The position `offset` octets into a source, when `p` is the position before the characters
that are left; none if no character begins or ends there. -/
def seek (offset : Nat) (p : Position) : List Char → Option Position
  | [] => if p.offset = offset then some p else none
  | c :: cs => if p.offset = offset then some p else seek offset (p.advance c) cs

/-- A position for a reader: its line and its column. -/
def label (p : Position) : String :=
  s!"{p.line}:{p.column}"

/-- Positions are ordered by line, then by column, then by offset. -/
instance : LT Position where
  lt p q := p.line < q.line ∨ p.line = q.line ∧
    (p.column < q.column ∨ p.column = q.column ∧ p.offset < q.offset)

instance : LE Position where
  le p q := p < q ∨ p = q

instance (p q : Position) : Decidable (p < q) :=
  inferInstanceAs (Decidable (_ ∨ _))

instance (p q : Position) : Decidable (p ≤ q) :=
  inferInstanceAs (Decidable (_ ∨ _))

end Position

end Diagnostics
