import Diagnostics.Excerpt.Draw

/-!
# Code blocks

A code block is an excerpt that is known to be drawable: its spans fit its source, there is at least
one, and its context counts are not negative. All of this is checked when the block is made, so
laying it out cannot fail.
-/

namespace Diagnostics

namespace Excerpt.Options

/-- No count of context lines is negative. -/
def Nonnegative (options : Options) : Prop :=
  0 ≤ options.previousLines ∧ 0 ≤ options.nextLines ∧ 0 ≤ options.middleLines

/-- The first count of context lines that is negative. -/
def negativeCount? (options : Options) : Option ContextCount :=
  if options.previousLines < 0 then some .previous
  else if options.nextLines < 0 then some .next
  else if options.middleLines < 0 then some .middle
  else none

/-- Without a negative count, all counts are nonnegative. -/
theorem nonnegative_of_negativeCount?_eq_none {options : Options}
    (h : options.negativeCount? = none) : options.Nonnegative := by
  unfold negativeCount? at h
  unfold Nonnegative
  split at h
  · simp at h
  · split at h
    · simp at h
    · split at h
      · simp at h
      · omega

end Excerpt.Options

/-- A source excerpt with at least one highlighted span. -/
structure Code where
  source : Source
  spans : List Span
  options : Excerpt.Options
  /-- The spans as they lie on the source, in drawing order. -/
  highlights : List Highlight
  resolved : Highlight.resolveAll source spans = .ok highlights
  nonnegative : options.Nonnegative
  text_ne : source.text ≠ ""
  displayed_ne : (Excerpt.mk source highlights options).displayedLines ≠ []

namespace Code

/-- The excerpt that a code block shows. -/
def excerpt (code : Code) : Excerpt :=
  ⟨code.source, code.highlights, code.options⟩

/-- Make a code block. The counts are checked first, then that there is a source, then each span in
the order given, then that something is shown. -/
def make (source : Source) (spans : List Span) (options : Excerpt.Options) :
    Except Failure Code :=
  match hcount : options.negativeCount? with
  | some count => .error (.negativeCount count)
  | none =>
    if htext : source.text = "" then .error .emptySource
    else
      match hspans : Highlight.resolveAll source spans with
      | .error failure => .error failure
      | .ok highlights =>
        if hlines : (Excerpt.mk source highlights options).displayedLines = [] then
          .error .nothingHighlighted
        else
          .ok ⟨source, spans, options, highlights, hspans,
            Excerpt.Options.nonnegative_of_negativeCount?_eq_none hcount, htext, hlines⟩

/-- Whether two code blocks were made from the same source, spans and options. -/
def same (a b : Code) : Bool :=
  a.source == b.source && a.spans == b.spans && a.options == b.options

end Code

end Diagnostics
