import Diagnostics.Block.Code
import Diagnostics.Datum

/-!
# Blocks

A diagnostic is a tree of blocks under a severity, followed by the chain of its causes. A block that
exists can be laid out; the one exception is a foreign value, which may stand where a block belongs
and is refused at layout.
-/

namespace Diagnostics

/-- The title of a diagnostic with its metadata. -/
structure Header where
  title : String := ""
  code : Option String := none
  location : Option String := none
  timestamp : Option String := none
  threadId : Option String := none
  showLocation : Bool := true
  showTimestamp : Bool := true
  showThread : Bool := true
  deriving DecidableEq, Repr

/-- Lines that are shown as they are. -/
structure Verbatim where
  lines : List String
  unbroken : ∀ line ∈ lines, ∀ c ∈ line.toList, Text.isLineBoundary c = false
  deriving DecidableEq

/-- A line that repeats one character; with width zero it is an empty line. -/
structure Separator where
  width : Nat
  character : Char
  unbroken : character ≠ '\n'
  deriving DecidableEq

/-- One frame of an error stack. -/
structure Frame where
  location : Option String := none
  codePath : Option String := none
  message : Option String := none
  deriving DecidableEq, Repr

/-- One error of a stack with its frames. -/
structure StackError where
  message : String := ""
  frames : List Frame := []
  /-- Whether the frames are shown with their numbers. -/
  showNumbers : Bool := false
  deriving DecidableEq, Repr

/-- An error stack: an error and the chain of errors that caused it. -/
structure Stack where
  error : StackError := {}
  causes : List StackError := []
  deriving DecidableEq, Repr

/-- A part of a diagnostic. -/
inductive Block
  | header (header : Header)
  /-- A block with a text in front of each of its lines. -/
  | prefixed (lead : String) (child : Block)
  | code (code : Code)
  | verbatim (text : Verbatim)
  | container (children : List Block)
  | separator (separator : Separator)
  | note (title message : String)
  | tag (label : String)
  | stack (stack : Stack)
  /-- A titled list of steps joined by a bar. -/
  | steps (title : String) (steps : List Block) (finalMessage : String)
  /-- A value that is not a block. -/
  | foreign (value : Datum)
  deriving Inhabited

/-- Blocks under a severity. -/
structure Report where
  kind : Severity
  blocks : List Block := []

/-- A report and the chain of reports that caused it. -/
structure Diagnostic where
  report : Report
  causes : List Report := []

namespace Text

/-- The lines of characters have no line boundary in them. -/
theorem not_isLineBoundary_of_mem_cutLines {cs line : List Char} (h : line ∈ cutLines cs)
    {c : Char} (hc : c ∈ line) : isLineBoundary c = false := by
  induction cs using cutLines.induct generalizing line with
  | case1 => simp [cutLines] at h
  | case2 cs ih =>
    simp only [cutLines, List.mem_cons] at h
    rcases h with rfl | h
    · simp at hc
    · exact ih h hc
  | case3 d cs hne hd ih =>
    rw [cutLines, if_pos hd] at h
    · rcases List.mem_cons.mp h with rfl | h
      · simp at hc
      · exact ih h hc
    · exact hne
  | case4 d cs hne hd ih =>
    rw [cutLines, if_neg hd] at h
    · cases hlines : cutLines cs with
      | nil =>
        simp only [hlines, consFirst, List.mem_singleton] at h
        subst h
        simp only [List.mem_singleton] at hc
        subst hc
        simpa using hd
      | cons first rest =>
        simp only [hlines, consFirst, List.mem_cons] at h
        rcases h with rfl | h
        · rcases List.mem_cons.mp hc with rfl | hc
          · simpa using hd
          · exact ih (by simp [hlines]) hc
        · exact ih (by simp [hlines, h]) hc
    · exact hne

/-- The physical lines of a text have no line boundary in them. -/
theorem not_isLineBoundary_of_mem_physicalLines {s line : String} (h : line ∈ physicalLines s)
    {c : Char} (hc : c ∈ line.toList) : isLineBoundary c = false := by
  unfold physicalLines firstAndRest at h
  split at h
  · simp only [List.mem_singleton] at h
    subst h
    simp at hc
  · rename_i first rest hlines
    have hmem : line ∈ lines s := by simpa [hlines] using h
    obtain ⟨cs, hcs, rfl⟩ := List.mem_map.mp hmem
    exact not_isLineBoundary_of_mem_cutLines hcs (by simpa using hc)

end Text

namespace Verbatim

/-- The lines of some texts one after another, at least one for each text. -/
def ofTexts (texts : List String) : Verbatim where
  lines := texts.flatMap Text.physicalLines
  unbroken := by
    intro line hline c hc
    obtain ⟨text, _, hmem⟩ := List.mem_flatMap.mp hline
    exact Text.not_isLineBoundary_of_mem_physicalLines hmem hc

/-- The lines of a text. -/
def ofText (text : String) : Verbatim :=
  ofTexts [text]

end Verbatim

namespace Separator

/-- The character that separators repeat by default. -/
def defaultCharacter : String := "─"

/-- Make a separator. The character is checked before the width. -/
def make (width : Int) (character : String) : Except Failure Separator :=
  match character.toList with
  | [c] =>
    if h : c = '\n' then .error .separatorCharacter
    else if width < 0 then .error .separatorWidth
    else .ok ⟨width.toNat, c, h⟩
  | _ => .error .separatorCharacter

end Separator

namespace Stack

/-- The errors of a stack from the outermost to the root cause. -/
def errors (stack : Stack) : List StackError :=
  stack.error :: stack.causes

/-- The number of frames of all errors. -/
def countFrames (stack : Stack) : Nat :=
  (stack.errors.flatMap (·.frames)).length

end Stack

namespace Diagnostic

/-- A diagnostic and its causes from the outermost to the root cause. -/
def reports (d : Diagnostic) : List Report :=
  d.report :: d.causes

end Diagnostic

end Diagnostics
