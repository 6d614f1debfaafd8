/-!
# Lines of a text

A text is cut at its line boundaries, and a boundary that ends the text opens no further line.
Every message, title and label is laid out through these lines, so no boundary of any kind reaches
a rendered line. Sources are the exception: their lines end at a line feed only.
-/

namespace Diagnostics.Text

/-- The characters that end a line: line feed, carriage return, vertical tab, form feed, the file,
group and record separators, next line, line separator and paragraph separator. -/
def lineBoundaries : List Char :=
  ['\n', '\r', '\x0b', '\x0c', '\x1c', '\x1d', '\x1e', '\u0085', '\u2028', '\u2029']

/-- Whether a character ends a line. -/
def isLineBoundary (c : Char) : Bool :=
  lineBoundaries.contains c

/-- Put a character in front of the first line, opening that line when there is none. -/
def consFirst (c : Char) : List (List Char) → List (List Char)
  | [] => [[c]]
  | line :: lines => (c :: line) :: lines

/-- Cut characters into lines. A carriage return followed by a line feed is one boundary. -/
def cutLines : List Char → List (List Char)
  | [] => []
  | '\r' :: '\n' :: cs => [] :: cutLines cs
  | c :: cs => if isLineBoundary c then [] :: cutLines cs else consFirst c (cutLines cs)

/-- The lines of a text; an empty text has none. -/
def lines (s : String) : List String :=
  (cutLines s.toList).map String.ofList

/-- The first line of a text, empty when there is none, and the lines after it. -/
def firstAndRest (s : String) : String × List String :=
  match lines s with
  | [] => ("", [])
  | first :: rest => (first, rest)

/-- The lines of a text, where an empty text still takes up one empty line. -/
def physicalLines (s : String) : List String :=
  (firstAndRest s).1 :: (firstAndRest s).2

/-- The lines of a text on one line, with a space for each boundary between them. -/
def onOneLine (s : String) : String :=
  " ".intercalate (lines s)

/-- A text that is present and not empty. Absent and empty texts are treated alike. -/
def nonempty? : Option String → Option String
  | none => none
  | some s => if s.isEmpty then none else some s

/-- `n` spaces. -/
def spaces (n : Nat) : String :=
  String.ofList (List.replicate n ' ')

/-- A text written `n` times over. -/
def replicate (n : Nat) (s : String) : String :=
  String.join (List.replicate n s)

/-- A text moved to the right end of a field of `width` characters. -/
def padLeft (width : Nat) (s : String) : String :=
  spaces (width - s.length) ++ s

end Diagnostics.Text
