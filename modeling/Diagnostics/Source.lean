import Diagnostics.Failure
import Diagnostics.Position
import Diagnostics.Text.Lines
import Diagnostics.Text.Quoted

/-!
# Source texts

A source answers questions in two coordinate systems: offsets in octets, and lines with columns.
Its lines end at line feeds only, so a source with `n` line feeds has `n + 1` lines, and each line
question is a look-up in a table with one entry for each line.
-/

namespace Diagnostics

/-- The text that an excerpt is taken from. -/
structure Source where
  text : String
  deriving DecidableEq, Repr

namespace Source

/-- The characters of a source. -/
def chars (source : Source) : List Char :=
  source.text.toList

/-- The number of octets of a source. -/
def size (source : Source) : Nat :=
  octetCount source.chars

/-- The offsets of the line feeds among characters, of which the first has offset `offset`. -/
def feedsFrom (offset : Nat) : List Char → List Nat
  | [] => []
  | c :: cs =>
    if c = '\n' then offset :: feedsFrom (offset + c.utf8Size) cs
    else feedsFrom (offset + c.utf8Size) cs

/-- Cut characters at each line feed. -/
def cutAtFeeds : List Char → List (List Char)
  | [] => [[]]
  | c :: cs => if c = '\n' then [] :: cutAtFeeds cs else Text.consFirst c (cutAtFeeds cs)

/-- The offsets of all line feeds, in ascending order. -/
def lineFeeds (source : Source) : List Nat :=
  feedsFrom 0 source.chars

/-- The number of lines; an empty source has one. -/
def lineCount (source : Source) : Nat :=
  source.lineFeeds.length + 1

/-- The entry of a table of lines that belongs to the given line, counted from one. -/
def atLine {α : Type} (source : Source) (table : List α) (line : Int) : Except Failure α :=
  match if 1 ≤ line then table[(line - 1).toNat]? else none with
  | some entry => .ok entry
  | none => .error (.lineOutOfRange line source.lineCount)

/-- The offset at which a line begins. -/
def lineStart (source : Source) (line : Int) : Except Failure Nat :=
  source.atLine (0 :: source.lineFeeds.map (· + 1)) line

/-- The offset at which a line ends: that of its line feed, or the end of the source. -/
def lineEnd (source : Source) (line : Int) : Except Failure Nat :=
  source.atLine (source.lineFeeds ++ [source.size]) line

/-- Whether a line ends in a line feed. -/
def hasLineFeed (source : Source) (line : Int) : Except Failure Bool :=
  source.atLine (source.lineFeeds.map (fun _ => true) ++ [false]) line

/-- The text of a line without its line feed. -/
def lineText (source : Source) (line : Int) : Except Failure String :=
  source.atLine ((cutAtFeeds source.chars).map String.ofList) line

/-- The position at an offset. -/
def resolve (source : Source) (offset : Int) : Except Failure Position :=
  if offset < 0 ∨ (source.size : Int) < offset then
    .error (.offsetOutside offset source.size)
  else
    match Position.start.seek offset.toNat source.chars with
    | some position => .ok position
    | none => .error (.offsetInsideCharacter offset)

/-- Whether an offset lies between characters. An offset below zero counts from the end. One that is
no signed number of sixty-four bits is refused as such. -/
def isBoundary (source : Source) (offset : Int) : Except Failure Bool :=
  let index := if offset < 0 then offset + source.size else offset
  if offset = source.size then .ok true
  else if offset < -0x8000000000000000 ∨ 0x8000000000000000 ≤ offset then .error .indexTooWide
  else if 0 ≤ index ∧ index < source.size then
    .ok (Position.start.seek index.toNat source.chars).isSome
  else .error .indexOutOfRange

/-- The offset of a column of a line. The column after the last character is the end of the
line. -/
def offsetOf (source : Source) (line column : Int) : Except Failure Nat := do
  let text ← source.lineText line
  if 1 ≤ column ∧ column ≤ text.length + 1 then
    let start ← source.lineStart line
    return start + octetCount (text.toList.take (column - 1).toNat)
  else
    throw (.columnOutOfRange column line)

/-- A source as it is shown to a programmer. -/
def description (source : Source) : String :=
  "SourceText(" ++ Text.quote source.text ++ ")"

end Source

end Diagnostics
