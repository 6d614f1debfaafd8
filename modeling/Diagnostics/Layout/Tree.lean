import Diagnostics.Layout.Stack

/-!
# Laying out a diagnostic

A tree of blocks becomes lines from the leaves up: what contains a block puts something in front of
the block's lines and adds lines of its own before and after them. Only a foreign value is refused.
-/

namespace Diagnostics

namespace Layout

/-- The title of a list of steps, with the symbol of the severity. -/
def stepsTitle (g : Glyphs) (level : Severity) (title : String) : List Line :=
  let symbol := level.paint level.symbol
  if title.isEmpty then [[symbol]]
  else hanging [symbol, { text := " " }] [level.paint (g.vertical ++ " ")] title

/-- The end of a list of steps, with its final message if it has one. -/
def stepsEnd (g : Glyphs) (level : Severity) (finalMessage : String) : List Line :=
  if finalMessage.isEmpty then [[level.paint (g.bottomCorner ++ g.horizontal)]]
  else
    hanging [level.paint (g.bottomCorner ++ g.horizontal ++ g.pointer), { text := " " }]
      (Line.plain (Text.spaces 4)) finalMessage

/-- The branch that leads a step. -/
def stepBranch (g : Glyphs) (level : Severity) : Piece :=
  level.paint (g.branch ++ g.horizontal ++ g.pointer ++ " ")

/-- The bar beside the further lines of a step. -/
def stepBar (g : Glyphs) (level : Severity) : Piece :=
  level.paint (g.vertical ++ "   ")

/-- The lines of a step. A step without lines takes up one line. -/
def step (lead bar : Piece) : List Line → List Line
  | [] => [[lead]]
  | first :: rest => (lead :: first) :: rest.map (bar :: ·)

/-- Whether a block is a separator; as a step it has no branch. -/
def isSeparator : Block → Bool
  | .separator _ => true
  | _ => false

mutual

/-- A block as lines, in the ink of a severity. -/
def block (g : Glyphs) (level : Severity) : Block → Except Failure (List Line)
  | .header h => .ok (header g level h)
  | .prefixed lead child => do
    let lines ← block g level child
    return lines.map ({ text := lead } :: ·)
  | .code c => c.excerpt.draw g level
  | .verbatim text => .ok (text.lines.map Line.plain)
  | .container children => blocks g level children
  | .separator s => .ok [Line.plain (String.ofList (List.replicate s.width s.character))]
  | .note title message => .ok (note g level title message)
  | .tag label => .ok (tag g level label)
  | .stack s => .ok (stack g level s)
  | .steps title items finalMessage => do
    let lines ← steps g level items
    return stepsTitle g level title ++ lines ++ stepsEnd g level finalMessage
  | .foreign value => .error (.unsupportedBlock value.kind)

/-- Blocks one after another. -/
def blocks (g : Glyphs) (level : Severity) : List Block → Except Failure (List Line)
  | [] => .ok []
  | b :: rest => do
    let lines ← block g level b
    let others ← blocks g level rest
    return lines ++ others

/-- Steps one after another. -/
def steps (g : Glyphs) (level : Severity) : List Block → Except Failure (List Line)
  | [] => .ok []
  | b :: rest => do
    let lines ← block g level b
    let others ← steps g level rest
    let lead := if isSeparator b then stepBar g level else stepBranch g level
    return step lead (stepBar g level) lines ++ others

end

/-- A list of one block is laid out as the block. -/
theorem blocks_singleton (g : Glyphs) (level : Severity) (b : Block) :
    blocks g level [b] = block g level b := by
  rw [blocks, blocks]
  cases block g level b with
  | error failure => rfl
  | ok lines => exact congrArg Except.ok (List.append_nil lines)

/-- Reports one after another, an empty line between them. -/
def reports (g : Glyphs) : List Report → Except Failure (List Line)
  | [] => .ok []
  | [r] => blocks g r.kind r.blocks
  | r :: rest => do
    let lines ← blocks g r.kind r.blocks
    let others ← reports g rest
    return lines ++ [] :: others

end Layout

namespace Diagnostic

/-- A diagnostic as lines. -/
def layout (d : Diagnostic) (g : Glyphs) : Except Failure (List Line) :=
  Layout.reports g d.reports

/-- The printed lines of a diagnostic. -/
def render (d : Diagnostic) (g : Glyphs) (color : Bool) : Except Failure (List String) :=
  (d.layout g).map (·.map (Line.print color))

/-- The printed lines of a diagnostic as one text. -/
def renderText (d : Diagnostic) (g : Glyphs) (color : Bool) : Except Failure String :=
  (d.render g color).map ("\n".intercalate ·)

end Diagnostic

/-- Where a diagnostic can be written. -/
inductive Destination
  | file
  | stdout
  | stderr
  deriving DecidableEq, Repr

/-- What has been written to each destination. -/
structure Written where
  file : String := ""
  stdout : String := ""
  stderr : String := ""
  deriving DecidableEq, Repr

/-- A text written to one destination and nothing to the others. -/
def Written.only (text : String) : Destination → Written
  | .file => { file := text }
  | .stdout => { stdout := text }
  | .stderr => { stderr := text }

/-- A text as it is written where no terminal reads it: ended by a line feed, and without escape
sequences unless colour is wanted. -/
def writtenForm (color : Bool) (text : String) : String :=
  (if color then text else Styled.eraseEscapes text) ++ "\n"

/-- Write a diagnostic to a destination. -/
def Diagnostic.emit (d : Diagnostic) (g : Glyphs) (color : Bool) (destination : Destination) :
    Except Failure Written :=
  (d.renderText g color).map fun text => Written.only (writtenForm color text) destination

end Diagnostics
