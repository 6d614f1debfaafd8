/-!
# Glyph tables

The marks that borders, lanes, markers and arrows are drawn with. A table may hold any strings;
two tables are built in, one of box-drawing characters and one of plain ASCII.
-/

namespace Diagnostics

/-- The marks of a drawing. -/
structure Glyphs where
  /-- The bar of gutters, lanes and stacks. -/
  vertical : String
  /-- The run of borders and connectors. -/
  horizontal : String
  /-- Opens an excerpt and a connector. -/
  topCorner : String
  /-- Closes an excerpt and a connector. -/
  bottomCorner : String
  /-- Stands under a highlighted character. -/
  marker : String
  /-- Stands for lines left out. -/
  ellipsis : String
  /-- Leads the metadata of a header. -/
  arrow : String
  /-- Stands for a line feed. -/
  newline : String
  /-- Leads notes and tags. -/
  note : String
  /-- Leads a step, the message of a stack and a cause. -/
  pointer : String
  /-- A bar with a branch to the right. -/
  branch : String
  deriving DecidableEq, Repr

namespace Glyphs

/-- The table of box-drawing characters. -/
def boxDrawing : Glyphs where
  vertical := "│"
  horizontal := "─"
  topCorner := "╭"
  bottomCorner := "╰"
  marker := "^"
  ellipsis := "···"
  arrow := "↪"
  newline := "↩"
  note := "="
  pointer := "▶"
  branch := "├"

/-- The table of ASCII characters. -/
def ascii : Glyphs where
  vertical := "|"
  horizontal := "-"
  topCorner := ","
  bottomCorner := "\x60"
  marker := "^"
  ellipsis := "..."
  arrow := "->"
  newline := "$"
  note := "="
  pointer := ">"
  branch := "|"

/-- The built-in table of a character set, by the name of the set. -/
def ofCharset? (name : String) : Option Glyphs :=
  if name == "unicode" then some boxDrawing
  else if name == "ascii" then some ascii
  else none

end Glyphs

end Diagnostics
