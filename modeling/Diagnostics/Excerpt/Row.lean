import Diagnostics.Excerpt.Basic
import Diagnostics.Glyphs

/-!
# Rows of an excerpt

A row says what stands in the gutter, in the lanes of the connectors and to the right of them. Rows
hold no glyphs, so which rows an excerpt has does not depend on the table they are drawn with.
-/

namespace Diagnostics.Excerpt

/-- What stands in one column of the connector lanes. -/
inductive Cell
  | blank
  | bar
  | run
  | opening
  | closing
  deriving DecidableEq, Repr

/-- What leads a message: the marker under a range, the hook of a range's second message, or the
marker at the end of a connector. Columns are columns of the source. -/
inductive Head
  | pointer (column width fill : Nat) (hint : Option Severity)
  | hook (column reach : Nat)
  | connector (column : Nat) (hint : Option Severity)
  deriving DecidableEq, Repr

/-- A row between the borders of an excerpt. -/
inductive Row
  /-- Lines left out. -/
  | gap
  /-- A line of the source, with its line feed marked or not. -/
  | source (line : Nat) (cells : List Cell) (text : String) (lineFeed : Bool)
  /-- A head with the first line of its message, if it has one. -/
  | mark (cells : List Cell) (head : Head) (message : Option String)
  /-- A further line of the message of a head. -/
  | continued (cells : List Cell) (head : Head) (message : String)
  deriving DecidableEq, Repr

/-- The glyph of a cell. -/
def Cell.draw (g : Glyphs) : Cell → String
  | blank => " "
  | bar => g.vertical
  | run => g.horizontal
  | opening => g.topCorner
  | closing => g.bottomCorner

/-- The glyphs of cells side by side. -/
def drawCells (g : Glyphs) (cells : List Cell) : String :=
  String.join (cells.map (Cell.draw g))

/-- The hook of a second message, drawn out to column `reach` if it is shorter. -/
def drawHook (g : Glyphs) (column reach : Nat) : String :=
  let hook := Text.spaces (column - 1) ++ g.bottomCorner ++ g.horizontal
  hook ++ Text.replicate (reach - hook.length) g.horizontal

/-- The line from the lanes to the marker of a connector. -/
def drawLead (g : Glyphs) (column : Nat) : String :=
  Text.replicate (column - 1) g.horizontal

/-- The columns of a head, counting each marker as one. Messages are continued under the place
where they began, one space after these columns. -/
def Head.width (g : Glyphs) : Head → Nat
  | pointer column width fill _ => column - 1 + width + fill
  | hook column reach => (drawHook g column reach).length
  | connector column _ => (drawLead g column).length + 1

/-- A head in the ink of its own severity or else of the excerpt's. -/
def Head.draw (g : Glyphs) (level : Severity) : Head → Line
  | pointer column width fill hint =>
    [{ text := Text.spaces (column - 1) },
      (hint.getD level).paint (Text.replicate width g.marker),
      { text := Text.spaces fill }]
  | hook column reach => Line.plain (drawHook g column reach)
  | connector column hint =>
    [{ text := drawLead g column }, (hint.getD level).paint g.marker]

/-- The gutter: a number at the right end of `width` columns, and the bar. -/
def drawGutter (g : Glyphs) (width : Nat) (number : String) : String :=
  Text.padLeft width number ++ " " ++ g.vertical ++ " "

/-- The first line of a message after its head. -/
def drawMessage : Option String → Line
  | none => []
  | some message => Line.plain (" " ++ message)

/-- A row as a line. Lines of the source and continued messages end where their text does. -/
def Row.draw (g : Glyphs) (width : Nat) (level : Severity) : Row → Line
  | gap => Line.plain (Text.padLeft width "" ++ " " ++ g.ellipsis)
  | source line cells text lineFeed =>
    Line.plain (Text.trimEnd (drawGutter g width line.repr ++ drawCells g cells ++
      (if lineFeed then text ++ g.newline else text)))
  | mark cells head message =>
    Line.plain (drawGutter g width "" ++ drawCells g cells) ++ head.draw g level ++
      drawMessage message
  | continued cells head message =>
    Line.plain (Text.trimEnd (drawGutter g width "" ++ drawCells g cells ++
      Text.spaces (head.width g + 1) ++ message))

end Diagnostics.Excerpt
