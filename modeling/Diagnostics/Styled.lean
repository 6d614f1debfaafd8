/-!
# Styled text

A line is a list of pieces, each plain or emphasised. Layout works on pieces and never sees how
emphasis is written, so lengths and columns do not depend on it. Printing a line either leaves the
emphasis out or brackets each emphasised piece with the escape sequences of a terminal.
-/

namespace Diagnostics

/-- The foreground colours of a terminal. -/
inductive Colour
  | black
  | red
  | green
  | yellow
  | blue
  | magenta
  | cyan
  | white
  /-- The colour of a terminal before any is selected. -/
  | reset
  | brightBlack
  | brightRed
  | brightGreen
  | brightYellow
  | brightBlue
  | brightMagenta
  | brightCyan
  | brightWhite
  deriving DecidableEq, Repr

namespace Colour

/-- All colours, in the order of their parameters. -/
def all : List Colour :=
  [black, red, green, yellow, blue, magenta, cyan, white, reset, brightBlack, brightRed,
    brightGreen, brightYellow, brightBlue, brightMagenta, brightCyan, brightWhite]

/-- The parameter that selects a foreground colour on a terminal. -/
def parameter : Colour → String
  | black => "30"
  | red => "31"
  | green => "32"
  | yellow => "33"
  | blue => "34"
  | magenta => "35"
  | cyan => "36"
  | white => "37"
  | reset => "39"
  | brightBlack => "90"
  | brightRed => "91"
  | brightGreen => "92"
  | brightYellow => "93"
  | brightBlue => "94"
  | brightMagenta => "95"
  | brightCyan => "96"
  | brightWhite => "97"

/-- The name of a colour. -/
def name : Colour → String
  | black => "black"
  | red => "red"
  | green => "green"
  | yellow => "yellow"
  | blue => "blue"
  | magenta => "magenta"
  | cyan => "cyan"
  | white => "white"
  | reset => "reset"
  | brightBlack => "bright_black"
  | brightRed => "bright_red"
  | brightGreen => "bright_green"
  | brightYellow => "bright_yellow"
  | brightBlue => "bright_blue"
  | brightMagenta => "bright_magenta"
  | brightCyan => "bright_cyan"
  | brightWhite => "bright_white"

/-- The colour with the given name. -/
def ofName? (wanted : String) : Option Colour :=
  all.find? (·.name == wanted)

end Colour

/-- How a piece is drawn: as it stands, or bold and possibly in a colour. -/
inductive Ink
  | plain
  | bold (colour : Option Colour)
  deriving DecidableEq, Repr

/-- A stretch of text in one ink. -/
structure Piece where
  text : String
  ink : Ink := .plain
  deriving DecidableEq, Repr

/-- A line of output before it is printed. -/
abbrev Line := List Piece

namespace Styled

/-- The escape sequence with the given parameter. -/
def escape (parameter : String) : String :=
  "\x1b[" ++ parameter ++ "m"

/-- The escape sequence that selects a foreground colour; none for no colour. -/
def escapeColour : Option Colour → String
  | none => ""
  | some colour => escape colour.parameter

/-- A text in bold and in a colour, bracketed by escape sequences. -/
def embolden (colour : Option Colour) (text : String) : String :=
  escapeColour colour ++ escape "1" ++ text ++ escape "0"

/-- Whether a character can stand among the parameters of an escape sequence. -/
def isParameter (c : Char) : Bool :=
  c == ';' || c == '?' || c.isDigit

/-- The length of the escape sequence that the characters begin with, zero if there is none: an
escape character, a bracket, parameters and a letter. -/
def escapeLength : List Char → Nat
  | '\x1b' :: '[' :: cs =>
    match cs.dropWhile isParameter with
    | [] => 0
    | c :: _ => if c.isAlpha then (cs.takeWhile isParameter).length + 3 else 0
  | _ => 0

/-- Characters without their escape sequences, where the first `skip` characters are the rest of a
sequence already begun. -/
def eraseFrom : Nat → List Char → List Char
  | _, [] => []
  | skip + 1, _ :: cs => eraseFrom skip cs
  | 0, c :: cs =>
    match escapeLength (c :: cs) with
    | 0 => c :: eraseFrom 0 cs
    | n + 1 => eraseFrom n cs

/-- A text without its escape sequences. -/
def eraseEscapes (s : String) : String :=
  String.ofList (eraseFrom 0 s.toList)

end Styled

/-- A piece as text. An empty piece is printed as nothing whatever its ink. -/
def Piece.print (color : Bool) (piece : Piece) : String :=
  match piece.ink with
  | .plain => piece.text
  | .bold colour =>
    if color && !piece.text.isEmpty then Styled.embolden colour piece.text else piece.text

namespace Line

/-- A line of one plain piece. -/
def plain (text : String) : Line :=
  [{ text }]

/-- A line as text. -/
def print (color : Bool) (line : Line) : String :=
  String.join (line.map (Piece.print color))

/-- The text of a line without any emphasis. -/
def text (line : Line) : String :=
  String.join (line.map Piece.text)

/-- The number of columns of a line. -/
def width (line : Line) : Nat :=
  (text line).length

end Line

/-- Printing without colour leaves exactly the text. -/
theorem Line.print_false (line : Line) : line.print false = line.text := by
  unfold Line.print Line.text
  congr 1
  refine List.map_congr_left fun piece _ => ?_
  unfold Piece.print
  split <;> simp

end Diagnostics
