import Diagnostics.Span
import Diagnostics.Text.Quoted

/-!
# Failures

Everything that can be refused while a source is queried, a diagnostic is assembled or it is laid
out. A failure records its cause; its wording is decided in one place.
-/

namespace Diagnostics

/-- Why a range does not fit a source. -/
inductive SpanFault
  | startAfterEnd
  | outside (size : Nat)
  | insideCharacter (offset : Int)
  deriving DecidableEq, Repr

/-- The three numbers of context lines around and between highlighted lines. -/
inductive ContextCount
  | previous
  | next
  | middle
  deriving DecidableEq, Repr

/-- The field that holds a number of context lines. -/
def ContextCount.field : ContextCount → String
  | previous => "previous_lines"
  | next => "next_lines"
  | middle => "middle_lines"

/-- The four ways to ask for the order of two values. -/
inductive Comparison
  | less
  | lessOrEqual
  | greater
  | greaterOrEqual
  deriving DecidableEq, Repr

/-- The sign of a comparison. -/
def Comparison.sign : Comparison → String
  | less => "<"
  | lessOrEqual => "<="
  | greater => ">"
  | greaterOrEqual => ">="

/-- Whether two values in the given order answer a comparison with yes. -/
def Comparison.holds : Comparison → Ordering → Bool
  | less, order => order.isLT
  | lessOrEqual, order => order.isLE
  | greater, order => order.isGT
  | greaterOrEqual, order => order.isGE

/-- What can be refused, by cause. -/
inductive Failure
  /-- No severity goes by this name. -/
  | unknownSeverity (name : String)
  /-- The tag is not exactly that of a severity. -/
  | notASeverity (name : String)
  /-- No glyph table belongs to this character set. -/
  | unknownCharset (name : String)
  /-- No colour of a terminal goes by this name. -/
  | unknownColour (name : String)
  /-- Two values of these kinds have no order. -/
  | unordered (comparison : Comparison) (left right : String)
  /-- The least or greatest of no values was asked for. -/
  | noValues (wanted : String)
  /-- An offset is not in a source of `size` octets. -/
  | offsetOutside (offset : Int) (size : Nat)
  /-- An offset lies inside the encoding of a character. -/
  | offsetInsideCharacter (offset : Int)
  /-- A line has no such column. -/
  | columnOutOfRange (column line : Int)
  /-- A source has no such line. -/
  | lineOutOfRange (line : Int) (lineCount : Nat)
  /-- There is no octet with this index. -/
  | indexOutOfRange
  /-- An index is no signed number of sixty-four bits. -/
  | indexTooWide
  /-- A span does not fit its source. -/
  | invalidSpan (span : Span) (fault : SpanFault)
  /-- An excerpt of a source without text. -/
  | emptySource
  /-- An excerpt in which nothing is highlighted. -/
  | nothingHighlighted
  /-- An excerpt without a line to show. -/
  | nothingDisplayed
  /-- A number of context lines is below zero. -/
  | negativeCount (count : ContextCount)
  /-- A separator repeats something other than one character of a line. -/
  | separatorCharacter
  /-- A separator is narrower than nothing. -/
  | separatorWidth
  /-- An indentation is narrower than nothing. -/
  | negativeIndent
  /-- A value in the tree is not a block. -/
  | unsupportedBlock (kind : String)
  /-- An operation that only the root of a diagnostic offers. -/
  | notOffered (operation : String)
  deriving DecidableEq, Repr

/-- The reason given for a range that does not fit. -/
def SpanFault.message : SpanFault → String
  | startAfterEnd => "start is after end"
  | outside size => s!"outside source of {size} byte(s)"
  | insideCharacter offset => s!"offset {offset} is not on a character boundary"

/-- The wording of a failure. -/
def Failure.message : Failure → String
  | unknownSeverity name => s!"unknown severity '{name}'"
  | notASeverity name => s!"{Text.quote name} is not a valid Severity"
  | unknownCharset name => s!"unknown charset '{name}' (expected 'unicode' or 'ascii')"
  | unknownColour name => s!"Unknown color {Text.quote name}"
  | unordered comparison left right =>
    s!"'{comparison.sign}' not supported between instances of '{left}' and '{right}'"
  | noValues wanted => s!"{wanted}() arg is an empty sequence"
  | offsetOutside offset size => s!"offset {offset} is outside the source ({size} byte(s))"
  | offsetInsideCharacter offset => (SpanFault.insideCharacter offset).message
  | columnOutOfRange column line => s!"column {column} is out of range for line {line}"
  | lineOutOfRange line lineCount =>
    s!"line {line} out of range (source has {lineCount} line(s))"
  | indexOutOfRange => "index out of range"
  | indexTooWide => "cannot fit 'int' into an index-sized integer"
  | invalidSpan span fault =>
    s!"invalid span [{span.start}, {span.stop}): {fault.message}"
  | emptySource => "code block has an empty source text"
  | nothingHighlighted => "code block has no highlighted spans to display"
  | nothingDisplayed => "code block has no lines to display"
  | negativeCount count => s!"{count.field} must not be negative"
  | separatorCharacter => "separator character must be a single non-newline character"
  | separatorWidth => "separator width must not be negative"
  | negativeIndent => "indent size must not be negative"
  | unsupportedBlock kind => s!"unsupported block type: {kind}"
  | notOffered operation => s!"'ContentBuilder' object has no attribute '{operation}'"

end Diagnostics
