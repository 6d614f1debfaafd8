import Diagnostics.Excerpt.Lanes

/-!
# Drawing an excerpt

The rows of an excerpt are those of its displayed lines between a top and a bottom border. Drawing
starts with every lane closed, so what an earlier drawing left behind does not matter, and it fails
at the first displayed line that the source does not have.
-/

namespace Diagnostics.Excerpt

/-- A row for the lines left out before `line`, if there are any. -/
def gapRows (previous : Option Nat) (line : Nat) : List Row :=
  match previous with
  | none => []
  | some p => if p + 1 < line then [.gap] else []

/-- The row of a line of the source. -/
def sourceRow (e : Excerpt) (lanes : Lanes) (line : Nat) : Except Failure Row := do
  let text ← e.source.lineText line
  let lineFeed ← e.source.hasLineFeed line
  return .source line lanes.cells text (e.options.showNewlines && lineFeed)

/-- The column where the messages of a line begin at the earliest. -/
def align (e : Excerpt) (line : Nat) : Nat :=
  if e.options.alignMessages then messageColumn e.highlights line else 0

/-- The rows of displayed lines, of which the last drawn was `previous`, and the lanes that are
open when drawing ends or fails. -/
def linesRows (e : Excerpt) :
    Option Nat → Lanes → List Nat → Except Failure (List Row) × Lanes
  | _, lanes, [] => (.ok [], lanes)
  | previous, lanes, line :: rest =>
    match e.sourceRow lanes line with
    | .error failure => (.error failure, lanes)
    | .ok row =>
      let (below, lanes) := highlightRows line (e.align line) 0 lanes e.highlights
      let (others, lanes) := linesRows e (some line) lanes rest
      (others.map fun others => gapRows previous line ++ row :: below ++ others, lanes)

/-- The rows of an excerpt and the lanes open at the end, given the lanes that an earlier drawing
left open. -/
def drawRows (e : Excerpt) (lanes : Lanes) : Except Failure (List Row) × Lanes :=
  if e.source.text.isEmpty then (.error .emptySource, lanes)
  else if e.displayedLines.isEmpty then (.error .nothingDisplayed, lanes)
  else e.linesRows none (.closed (laneCount e.highlights)) e.displayedLines

/-- The rows of an excerpt between its borders. -/
def rows (e : Excerpt) : Except Failure (List Row) :=
  (e.drawRows (.closed (laneCount e.highlights))).1

/-- The columns of the line numbers: as many as the last displayed line has digits. -/
def gutterWidth (e : Excerpt) : Nat :=
  match e.displayedLines.getLast? with
  | none => 1
  | some line => line.repr.length

/-- The top border with the path of the file. -/
def topBorder (g : Glyphs) (options : Options) : String :=
  g.topCorner ++ g.horizontal ++
    match Text.nonempty? options.filePath with
    | none => ""
    | some path => "[" ++ Text.onOneLine path ++ "]"

/-- The lines above the first row: the symbol of the severity, the title and the top border. -/
def topLines (g : Glyphs) (level : Severity) (width : Nat) (options : Options) : List Line :=
  let symbol := level.paint (Text.padLeft width level.symbol)
  let indent := Text.spaces (width + 1)
  match Text.nonempty? options.title with
  | none => [[symbol, { text := " " ++ topBorder g options }]]
  | some title =>
    let (first, rest) := Text.firstAndRest title
    [symbol, { text := " " ++ first }] :: rest.map (fun part => Line.plain (indent ++ part)) ++
      [Line.plain (indent ++ topBorder g options)]

/-- The lines below the last row: the bottom border and the final message. -/
def bottomLines (g : Glyphs) (width : Nat) (options : Options) : List Line :=
  let border := Text.spaces (width + 1) ++ g.bottomCorner ++ g.horizontal
  match Text.nonempty? options.finalMessage with
  | none => [Line.plain border]
  | some message =>
    let (first, rest) := Text.firstAndRest message
    Line.plain (border ++ " " ++ first) ::
      rest.map fun part => Line.plain (Text.spaces (border.length + 1) ++ part)

/-- The lines of an excerpt with some columns for the line numbers, from the rows between its
borders. -/
def frameOfWidth (options : Options) (g : Glyphs) (level : Severity) (width : Nat)
    (rows : List Row) : List Line :=
  topLines g level width options ++ rows.map (Row.draw g width level) ++
    bottomLines g width options

/-- All lines of an excerpt, from the rows between its borders. -/
def frame (e : Excerpt) (g : Glyphs) (level : Severity) (rows : List Row) : List Line :=
  frameOfWidth e.options g level e.gutterWidth rows

/-- An excerpt as lines, in the ink of a severity. -/
def draw (e : Excerpt) (g : Glyphs) (level : Severity) : Except Failure (List Line) :=
  e.rows.map (e.frame g level)

end Diagnostics.Excerpt
