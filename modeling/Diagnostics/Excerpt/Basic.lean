import Diagnostics.Highlight

/-!
# Excerpts

An excerpt shows the lines of a source that its highlights run over, and context around them.
This module says which lines are shown; they do not depend on how the excerpt is drawn.
-/

namespace Diagnostics

/-- What an excerpt shows beside its highlights. -/
structure Excerpt.Options where
  title : Option String := none
  filePath : Option String := none
  finalMessage : Option String := none
  /-- Lines shown before the first highlighted line. -/
  previousLines : Int := 0
  /-- Lines shown after the last highlighted line. -/
  nextLines : Int := 0
  /-- The longest gap between highlighted lines that is filled. -/
  middleLines : Int := 0
  /-- Whether the end of each line is marked. -/
  showNewlines : Bool := false
  /-- Whether the messages of a line begin in one column. -/
  alignMessages : Bool := false
  deriving DecidableEq, Repr

/-- A source with highlights on it. -/
structure Excerpt where
  source : Source
  highlights : List Highlight
  options : Excerpt.Options := {}
  deriving DecidableEq, Repr

namespace Excerpt

/-- The first highlighted line, or `line` if no highlight begins before it. -/
def firstLine (line : Nat) (highlights : List Highlight) : Nat :=
  highlights.foldl (fun first a => min first a.start.line) line

/-- The last highlighted line, or `line` if no highlight ends after it. -/
def lastLine (line : Nat) (highlights : List Highlight) : Nat :=
  highlights.foldl (fun last a => max last a.stop.line) line

/-- The numbers from `first` to `last`. -/
def interval (first last : Nat) : List Nat :=
  List.range' first (last + 1 - first)

/-- Highlighted lines from `first` to `last`, the context before them, which stops at line one, and
the context after them, which stops at the end of a source of `lineCount` lines. -/
def contextLines (lineCount : Nat) (options : Options) (highlights : List Highlight)
    (first last : Nat) : List Nat :=
  let start := (max 1 (min (first : Int) (first - options.previousLines))).toNat
  let stop := (max (last : Int) (min (lineCount : Int) (last + options.nextLines))).toNat
  (interval start stop).filter fun line =>
    line < first || last < line || highlights.any (·.covers line)

/-- Fill each gap of at most `middle` lines between two neighbours of an ascending list. -/
def fillGaps (middle : Int) : List Nat → List Nat
  | [] => []
  | [line] => [line]
  | line :: next :: rest =>
    let gap := if (next : Int) - line ≤ middle + 1 then interval (line + 1) (next - 1) else []
    line :: gap ++ fillGaps middle (next :: rest)

/-- The numbers of the lines shown, in ascending order. -/
def displayedLines (e : Excerpt) : List Nat :=
  match e.highlights with
  | [] => []
  | a :: rest =>
    let first := firstLine a.start.line rest
    let last := lastLine a.stop.line rest
    fillGaps e.options.middleLines
      (contextLines e.source.lineCount e.options e.highlights first last)

end Excerpt

end Diagnostics
