import Diagnostics.Layout.Heading

/-!
# Error stacks

The errors of a stack are listed from the outermost to the root cause, each with its frames. Frames
are numbered across the whole stack: within an error the numbers descend, and the numbers of a
cause go on above those of the error it caused.
-/

namespace Diagnostics.Layout

/-- The line that opens an error: the outermost error opens the stack, any other hangs on it. -/
def errorLead (g : Glyphs) (isCause : Bool) (error : StackError) : String :=
  if isCause then
    g.branch ++ Text.replicate 3 g.horizontal ++ g.pointer ++ " Caused by:"
  else
    g.topCorner ++ g.horizontal ++ if error.message.isEmpty then "" else g.pointer

/-- The message of an error. A cause is set off by a line that holds the bar alone. -/
def errorMessage (g : Glyphs) (level : Severity) (isCause : Bool) (error : StackError) :
    List Line :=
  let lead := level.paint (errorLead g isCause error)
  let indent := [level.paint (g.vertical ++ Text.spaces (if isCause then 5 else 3))]
  (if isCause then [[level.paint g.vertical]] else []) ++
    if error.message.isEmpty then [[lead]]
    else hanging [lead, { text := " " }] indent error.message

/-- Where a frame is, with the path of its code in brackets. -/
def frameHead (level : Severity) (frame : Frame) : Line :=
  let location :=
    match Text.nonempty? frame.location with
    | none => "<unknown location>"
    | some location => Text.onOneLine location
  { text := location } ::
    match Text.nonempty? frame.codePath with
    | none => []
    | some path => [level.paint "(", { text := Text.onOneLine path }, level.paint ")"]

/-- A frame after its label: its place, and its message if it has one. -/
def frame (level : Severity) (lead indent : Line) (frame : Frame) : List Line :=
  match Text.nonempty? frame.message with
  | none => [lead ++ frameHead level frame]
  | some message => hanging (lead ++ frameHead level frame ++ [level.paint " - "]) indent message

/-- The label of a frame: its number in a field of `digits` columns, or a word. -/
def frameLabel (showNumbers : Bool) (digits number : Nat) : String :=
  if showNumbers then "[" ++ Text.padLeft digits number.repr ++ "] " else " at "

/-- The frames of an error, where the last frame has the number after `above`. -/
def frames (g : Glyphs) (level : Severity) (showNumbers : Bool) (digits above : Nat) :
    List Frame → List Line
  | [] => []
  | f :: rest =>
    let label := frameLabel showNumbers digits (above + rest.length + 1)
    frame level [level.paint (g.vertical ++ "  " ++ label)]
        [level.paint (g.vertical ++ "  " ++ Text.spaces (digits + 2))] f ++
      frames g level showNumbers digits above rest

/-- An error of a stack: its message and its frames. -/
def stackError (g : Glyphs) (level : Severity) (digits above : Nat) (isCause : Bool)
    (error : StackError) : List Line :=
  errorMessage g level isCause error ++ frames g level error.showNumbers digits above error.frames

/-- The causes of a stack, where frames with numbers up to `above` stand before them. -/
def stackCauses (g : Glyphs) (level : Severity) (digits : Nat) :
    Nat → List StackError → List Line
  | _, [] => []
  | above, error :: rest =>
    stackError g level digits above true error ++
      stackCauses g level digits (above + error.frames.length) rest

/-- A whole stack, closed by a corner. -/
def stack (g : Glyphs) (level : Severity) (stack : Stack) : List Line :=
  let digits := stack.countFrames.repr.length
  stackError g level digits 0 false stack.error ++
    stackCauses g level digits stack.error.frames.length stack.causes ++
    [[level.paint (g.bottomCorner ++ g.horizontal)]]

end Diagnostics.Layout
