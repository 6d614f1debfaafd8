import Diagnostics.Block.Basic

/-!
# Headers, notes and tags

These blocks begin with a lead and go on with a text of any number of lines. The first line stands
beside the lead and each further line stands below it.
-/

namespace Diagnostics.Layout

/-- The lines of a text, the first after a lead and each other after an indentation. -/
def hanging (lead indent : Line) (text : String) : List Line :=
  let (first, rest) := Text.firstAndRest text
  (lead ++ Line.plain first) :: rest.map fun part => indent ++ Line.plain part

/-- The name of a severity, with the code of a header in brackets if there is one. -/
def headerTag (level : Severity) (header : Header) : String :=
  level.tag ++
    match Text.nonempty? header.code with
    | none => ""
    | some code => "[" ++ code ++ "]"

/-- The title of a header. A header without a title is the tag alone. -/
def headerTitle (level : Severity) (header : Header) : List Line :=
  let tag := headerTag level header
  if header.title.isEmpty then [[level.paint tag]]
  else
    hanging [level.paint tag, { text := ": " }] (Line.plain (Text.spaces (tag.length + 2)))
      header.title

/-- A labelled value of a header, if it is given and to be shown. -/
def headerField (g : Glyphs) (level : Severity) (label : String) (value : Option String)
    (shown : Bool) : List Line :=
  match Text.nonempty? value with
  | none => []
  | some value =>
    if shown then
      hanging [level.paint (" " ++ g.arrow), { text := " " ++ label ++ " " }]
        (Line.plain (Text.spaces (g.arrow.length + label.length + 3))) value
    else []

/-- A header: its title, then where, when and in which thread it arose. -/
def header (g : Glyphs) (level : Severity) (header : Header) : List Line :=
  headerTitle level header ++
    headerField g level "in" header.location header.showLocation ++
    headerField g level "at" header.timestamp header.showTimestamp ++
    headerField g level "in thread" header.threadId header.showThread

/-- A note: its title on one line and its message beside it. -/
def note (g : Glyphs) (level : Severity) (title message : String) : List Line :=
  let title := Text.onOneLine title
  hanging [level.paint g.note, { text := " " ++ title ++ ": " }]
    (Line.plain (Text.spaces (g.note.length + title.length + 3))) message

/-- A tag on one line, in bold. -/
def tag (g : Glyphs) (level : Severity) (label : String) : List Line :=
  [[level.paint g.note, { text := " " }, ⟨Text.onOneLine label, .bold none⟩]]

end Diagnostics.Layout
