import Diagnostics.Styled
import Diagnostics.Text.Blank

/-!
# Severities

A diagnostic has one of five severities. Each has a tag by which it is named, a rank by which
severities are ordered, a symbol for the border of an excerpt, and a colour.
-/

namespace Diagnostics

/-- How serious a diagnostic is. -/
inductive Severity
  | trace
  | debug
  | info
  | warn
  | error
  deriving DecidableEq, Repr

namespace Severity

/-- All severities, in ascending order. -/
def all : List Severity :=
  [trace, debug, info, warn, error]

/-- The name of a severity. -/
def tag : Severity → String
  | trace => "trace"
  | debug => "debug"
  | info => "info"
  | warn => "warn"
  | error => "error"

/-- The number that orders severities. -/
def rank : Severity → Nat
  | trace => 1000
  | debug => 2000
  | info => 3000
  | warn => 4000
  | error => 5000

/-- The symbol in the top border of an excerpt. -/
def symbol : Severity → String
  | trace => "•"
  | debug => "•"
  | info => "•"
  | warn => "⚠"
  | error => "×"

/-- The colour of everything a severity emphasises. -/
def colour : Severity → Colour
  | trace => .brightBlack
  | debug => .green
  | info => .blue
  | warn => .yellow
  | error => .red

instance : LE Severity := ⟨fun a b => a.rank ≤ b.rank⟩

instance : LT Severity := ⟨fun a b => a.rank < b.rank⟩

instance (a b : Severity) : Decidable (a ≤ b) := inferInstanceAs (Decidable (a.rank ≤ b.rank))

instance (a b : Severity) : Decidable (a < b) := inferInstanceAs (Decidable (a.rank < b.rank))

/-- The severity with exactly the given tag. -/
def ofTag? (name : String) : Option Severity :=
  all.find? (·.tag == name)

/-- The severity a person means by a name: blanks around it and the case of its letters do not
matter, and `warning` is a second name of `warn`. Only letters of ASCII have a case here, since no
other letter has a lower case form that occurs in a tag. -/
def parse? (name : String) : Option Severity :=
  let key := (Text.trim name).map Char.toLower
  if key == "warning" then some warn else ofTag? key

/-- The ink of everything a severity emphasises. -/
def ink (severity : Severity) : Ink :=
  .bold (some severity.colour)

/-- A text in the ink of a severity. -/
def paint (severity : Severity) (text : String) : Piece :=
  ⟨text, severity.ink⟩

/-- Severities from the least to the most serious. -/
def sort (severities : List Severity) : List Severity :=
  severities.mergeSort (fun a b => a ≤ b)

/-- The tag of a severity names that severity. -/
theorem ofTag?_tag (severity : Severity) : ofTag? severity.tag = some severity := by
  cases severity <;> decide

end Severity

end Diagnostics
