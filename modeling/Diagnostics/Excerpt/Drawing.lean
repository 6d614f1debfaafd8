import Diagnostics.Excerpt.Draw

/-!
# Drawing more than once

A drawing keeps what its last run left behind: the width of the gutter, and the lanes that were open
when the run ended or came to a line that the source does not have. A run that has lines to show
settles both anew before its first row.
-/

namespace Diagnostics.Excerpt

/-- An excerpt to be drawn, with what the last run left behind. -/
structure Drawing where
  excerpt : Excerpt
  glyphs : Glyphs
  level : Severity
  /-- The columns of the line numbers. -/
  width : Nat := 1
  /-- The lanes that are open. -/
  lanes : Lanes := .closed (laneCount excerpt.highlights)
  deriving DecidableEq, Repr

namespace Drawing

/-- A run of a drawing: its lines or why there are none, and the drawing after it. -/
def run (d : Drawing) : Except Failure (List Line) × Drawing :=
  if d.excerpt.source.text.isEmpty then (.error .emptySource, d)
  else
    match d.excerpt.displayedLines.getLast? with
    | none => (.error .nothingDisplayed, d)
    | some last =>
      let begun : Drawing :=
        { d with width := last.repr.length, lanes := .closed (laneCount d.excerpt.highlights) }
      let (rows, lanes) := d.excerpt.linesRows none begun.lanes d.excerpt.displayedLines
      (rows.map (frameOfWidth d.excerpt.options d.glyphs d.level begun.width),
        { begun with lanes })

end Drawing

end Diagnostics.Excerpt
