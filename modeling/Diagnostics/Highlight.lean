import Diagnostics.Source

/-!
# Highlights

A highlight is a span that fits a source, together with the positions of its two ends. A range
that ends right after a line feed is shown on the line of that line feed and covers the column
after the line's last character.
-/

namespace Diagnostics

/-- A span with its positions in a source. -/
structure Highlight where
  span : Span
  start : Position
  stop : Position
  deriving DecidableEq, Repr

namespace Highlight

/-- Whether a highlight runs over more than one line. -/
def multiline (a : Highlight) : Bool :=
  a.start.line != a.stop.line

/-- The number of columns of a highlight on one line; an empty range takes up one. -/
def width (a : Highlight) : Nat :=
  max 1 (a.stop.column - a.start.column)

/-- Whether a line lies between the first and the last line of a highlight. -/
def covers (a : Highlight) (line : Nat) : Bool :=
  a.start.line ≤ line && line ≤ a.stop.line

/-- The positions of a range from `start` to `stop`, where a range that ends at the beginning of a
line is taken back to the line before. -/
def settleStop (source : Source) (span : Span) (start stop : Position) :
    Except Failure Position := do
  if span.start < span.stop ∧ stop.column = 1 ∧ start.line < stop.line then
    let text ← source.lineText (stop.line - 1)
    return ⟨stop.line - 1, text.length + 2, stop.offset⟩
  else
    return stop

/-- The position at an end of a span, as part of resolving the span. -/
def resolveEnd (source : Source) (span : Span) (offset : Int) : Except Failure Position :=
  match source.resolve offset with
  | .ok position => .ok position
  | .error _ => .error (.invalidSpan span (.insideCharacter offset))

/-- Place a span on a source. The order of its ends is checked first, then its bounds, then that
each end lies between characters. -/
def resolve (source : Source) (span : Span) : Except Failure Highlight := do
  if span.stop < span.start then
    throw (.invalidSpan span .startAfterEnd)
  if span.start < 0 ∨ (source.size : Int) < span.stop then
    throw (.invalidSpan span (.outside source.size))
  let start ← resolveEnd source span span.start
  let stop ← resolveEnd source span span.stop
  let stop ← settleStop source span start stop
  return { span, start, stop }

/-- Highlights are drawn from the first start to the last, shorter ranges first. -/
def comesFirst (a b : Highlight) : Bool :=
  decide (a.start.line < b.start.line) ||
    a.start.line == b.start.line && (decide (a.start.column < b.start.column) ||
      a.start.column == b.start.column && decide (a.span.stop ≤ b.span.stop))

/-- Place spans on a source and put them in drawing order. Overlapping and equal spans are all
kept, and equal ones stay in the order given. -/
def resolveAll (source : Source) (spans : List Span) : Except Failure (List Highlight) := do
  let highlights ← spans.mapM (resolve source)
  return highlights.mergeSort comesFirst

end Highlight

end Diagnostics
