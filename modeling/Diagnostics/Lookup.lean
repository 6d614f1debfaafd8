import Diagnostics.Failure
import Diagnostics.Glyphs

/-!
# Looking things up by name

Severities, glyph tables and colours are asked for by name. A name that belongs to none of them is
refused.
-/

namespace Diagnostics

namespace Severity

/-- The severity with exactly the given tag, or the failure that there is none. -/
def ofTag (name : String) : Except Failure Severity :=
  match ofTag? name with
  | some severity => .ok severity
  | none => .error (.notASeverity name)

/-- The severity a person means by a name, or the failure that there is none. -/
def parse (name : String) : Except Failure Severity :=
  match parse? name with
  | some severity => .ok severity
  | none => .error (.unknownSeverity name)

end Severity

/-- The built-in glyph table of a character set, or the failure that there is none. -/
def Glyphs.ofCharset (name : String) : Except Failure Glyphs :=
  match ofCharset? name with
  | some glyphs => .ok glyphs
  | none => .error (.unknownCharset name)

/-- The colour with the given name, or the failure that there is none. -/
def Colour.ofName (name : String) : Except Failure Colour :=
  match ofName? name with
  | some colour => .ok colour
  | none => .error (.unknownColour name)

namespace Styled

/-- The bold ink in the colour of the given name; no name and the empty name mean no colour. -/
def inkNamed : Option String → Except Failure Ink
  | none | some "" => .ok (.bold none)
  | some name => (Colour.ofName name).map fun colour => .bold (some colour)

/-- A text in bold and in the colour of the given name. A text that is printed as it stands needs no
colour, so its name is not looked up. -/
def paint (colour : Option String) (text : String) (enabled : Bool) : Except Failure String :=
  if enabled && !text.isEmpty then
    (inkNamed colour).map fun ink => Piece.print true ⟨text, ink⟩
  else .ok text

end Styled

end Diagnostics
