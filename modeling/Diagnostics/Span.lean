import Diagnostics.Severity

/-!
# Spans

A span names a half-open range of octets in a source, with the messages to show beside it. It is
a request: whether the range fits a source is decided when the span is resolved.
-/

namespace Diagnostics

/-- A half-open range of octets with its messages. -/
structure Span where
  /-- The first octet of the range. -/
  start : Int
  /-- The octet after the range. -/
  stop : Int
  /-- The message on the row of the marker that opens the range. -/
  inlineMessage : Option String := none
  /-- The message after the range. -/
  trailingMessage : Option String := none
  /-- A severity that takes the place of the excerpt's for this span. -/
  severityHint : Option Severity := none
  deriving DecidableEq, Repr

namespace Span

/-- A range without octets; it is shown as a marker one column wide. -/
def cursor (offset : Int) (message : Option String := none) : Span :=
  { start := offset, stop := offset, trailingMessage := message }

/-- Whether a range has no octets. -/
def isEmpty (span : Span) : Bool :=
  span.start == span.stop

end Span

end Diagnostics
