import Diagnostics.Excerpt.Row

/-!
# Connector lanes

Each highlight that runs over more than one line has a lane between the gutter and the source, in
the order of the highlights. A lane is opened below the first line of its highlight and closed
below the last, and while it is open it shows a bar on every row.
-/

namespace Diagnostics.Excerpt

/-- Which lanes are open, from left to right. -/
abbrev Lanes := List Bool

/-- The number of lanes that highlights need. -/
def laneCount (highlights : List Highlight) : Nat :=
  highlights.countP (·.multiline)

namespace Lanes

/-- Lanes of which none is open. -/
def closed (count : Nat) : Lanes :=
  List.replicate count false

/-- The cell of a lane on a row that has no corner. -/
def cell (isOpen : Bool) : Cell :=
  if isOpen then .bar else .blank

/-- The cells of a row without a corner. A blank separates the lanes from the source. -/
def cells (lanes : Lanes) : List Cell :=
  if lanes.isEmpty then [] else lanes.map cell ++ [.blank]

/-- The cells of a row with a corner in one lane, from which a line runs to the right. -/
def cornerCells (lanes : Lanes) (lane : Nat) (corner : Cell) : List Cell :=
  (lanes.take lane).map cell ++ corner :: List.replicate (lanes.length - lane) .run

end Lanes

/-- A head and the lines of its message: the first line beside the head, each further line below,
where the lanes may have changed. -/
def messageRows (cells below : List Cell) (head : Head) : Option String → List Row
  | none => [.mark cells head none]
  | some message =>
    let (first, rest) := Text.firstAndRest message
    .mark cells head (some first) :: rest.map (.continued below head)

/-- The rows of a highlight on one line. A second message hangs on a hook of its own, and the
messages begin no further left than column `align`. -/
def pointerRows (lanes : Lanes) (align : Nat) (a : Highlight) : List Row :=
  let column := a.start.column
  let inline := Text.nonempty? a.span.inlineMessage
  let trailing := Text.nonempty? a.span.trailingMessage
  let fill := if (inline <|> trailing).isSome then align - (column - 1 + a.width) else 0
  messageRows lanes.cells lanes.cells (.pointer column a.width fill a.span.severityHint)
      (inline <|> trailing) ++
    if inline.isSome && trailing.isSome then
      messageRows lanes.cells lanes.cells (.hook column align) trailing
    else []

/-- Open the lane of a highlight below its first line. -/
def openRows (lane : Nat) (lanes : Lanes) (a : Highlight) : List Row × Lanes :=
  let after : Lanes := lanes.set lane true
  (messageRows (lanes.cornerCells lane .opening) after.cells
    (.connector a.start.column a.span.severityHint) (Text.nonempty? a.span.inlineMessage), after)

/-- Close the lane of a highlight below its last line. The marker stands under the last
character of the range. -/
def closeRows (lane : Nat) (lanes : Lanes) (a : Highlight) : List Row × Lanes :=
  let after : Lanes := lanes.set lane false
  (messageRows (lanes.cornerCells lane .closing) after.cells
    (.connector (max 1 (a.stop.column - 1)) a.span.severityHint)
    (Text.nonempty? a.span.trailingMessage), after)

/-- The rows of a highlight below a line, and the lanes after them. -/
def rowsBelow (line align lane : Nat) (lanes : Lanes) (a : Highlight) : List Row × Lanes :=
  if a.multiline then
    let (opening, lanes) := if a.start.line = line then openRows lane lanes a else ([], lanes)
    let (closing, lanes) := if a.stop.line = line then closeRows lane lanes a else ([], lanes)
    (opening ++ closing, lanes)
  else if a.start.line = line then (pointerRows lanes align a, lanes)
  else ([], lanes)

/-- The rows of all highlights below a line, and the lanes after them. The next lane to be given
to a highlight is `lane`. -/
def highlightRows (line align : Nat) : Nat → Lanes → List Highlight → List Row × Lanes
  | _, lanes, [] => ([], lanes)
  | lane, lanes, a :: rest =>
    let (rows, lanes) := rowsBelow line align lane lanes a
    let (others, lanes) := highlightRows line align (if a.multiline then lane + 1 else lane)
      lanes rest
    (rows ++ others, lanes)

/-- The columns before the message of a highlight on one line: those of its marker, and of its
hook if it has two messages. Zero if it has no message. -/
def messageReach (a : Highlight) : Nat :=
  let inline := Text.nonempty? a.span.inlineMessage
  let trailing := Text.nonempty? a.span.trailingMessage
  max (if inline.isSome || trailing.isSome then a.start.column - 1 + a.width else 0)
    (if inline.isSome && trailing.isSome then a.start.column + 1 else 0)

/-- The columns before the messages of a line when they are aligned. -/
def messageColumn (highlights : List Highlight) (line : Nat) : Nat :=
  (highlights.filter fun a => !a.multiline && a.start.line == line).foldl
    (fun column a => max column (messageReach a)) 0

end Diagnostics.Excerpt
