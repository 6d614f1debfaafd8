import Diagnostics.Block.Basic
import Mathlib.Data.List.ReduceOption

/-!
# The strings of a diagnostic

A diagnostic holds strings of its own, and its layout takes each of them apart in one of three ways.
This file collects the strings of a diagnostic with the places where they are cut, so that what its
lines can show is said by what it holds.
-/

namespace Diagnostics

/-- Where a string is cut before it is laid out. -/
inductive Cut
  /-- It is put in as it stands. -/
  | nowhere
  /-- It is cut at its line feeds, or made without any. -/
  | atFeeds
  /-- It is cut at all its line boundaries. -/
  | atBoundaries
  deriving DecidableEq, Repr

/-- Whether a character is lost where a string is cut. -/
def Cut.loses : Cut → Char → Bool
  | nowhere, _ => false
  | atFeeds, c => c == '\n'
  | atBoundaries, c => Text.isLineBoundary c

/-- A string that a diagnostic holds, and where it is cut. -/
structure Fragment where
  text : String
  cut : Cut
  deriving DecidableEq, Repr

namespace Fragment

/-- Whether no occurrence of a character in a fragment reaches a line. -/
def Hides (f : Fragment) (c : Char) : Prop :=
  c ∈ f.text.toList → f.cut.loses c = true

/-- The fragments of strings that may be absent. -/
def present (cut : Cut) (texts : List (Option String)) : List Fragment :=
  texts.reduceOption.map (⟨·, cut⟩)

end Fragment

/-- The strings of a header. Its code stands in brackets as it is. -/
def Header.fragments (h : Header) : List Fragment :=
  ⟨h.title, .atBoundaries⟩ :: Fragment.present .nowhere [h.code] ++
    Fragment.present .atBoundaries [h.location, h.timestamp, h.threadId]

/-- The strings of a code block: the source, the strings around it and the messages of its spans. -/
def Code.fragments (code : Code) : List Fragment :=
  ⟨code.source.text, .atFeeds⟩ ::
    Fragment.present .atBoundaries
      [code.options.title, code.options.filePath, code.options.finalMessage] ++
    code.spans.flatMap fun span =>
      Fragment.present .atBoundaries [span.inlineMessage, span.trailingMessage]

/-- The strings of an error. -/
def StackError.fragments (error : StackError) : List Fragment :=
  ⟨error.message, .atBoundaries⟩ :: error.frames.flatMap fun frame =>
    Fragment.present .atBoundaries [frame.location, frame.codePath, frame.message]

/-- The strings of an error stack. -/
def Stack.fragments (stack : Stack) : List Fragment :=
  stack.errors.flatMap StackError.fragments

mutual

/-- The strings of a block and of the blocks in it. -/
def Block.fragments : Block → List Fragment
  | .header h => h.fragments
  | .prefixed lead child => ⟨lead, .nowhere⟩ :: child.fragments
  | .code c => c.fragments
  | .verbatim text => text.lines.map (⟨·, .atBoundaries⟩)
  | .container children => Block.fragmentsOfAll children
  | .separator s => [⟨String.singleton s.character, .atFeeds⟩]
  | .note title message => [⟨title, .atBoundaries⟩, ⟨message, .atBoundaries⟩]
  | .tag label => [⟨label, .atBoundaries⟩]
  | .stack s => s.fragments
  | .steps title items finalMessage =>
    ⟨title, .atBoundaries⟩ :: ⟨finalMessage, .atBoundaries⟩ :: Block.fragmentsOfAll items
  | .foreign _ => []

/-- The strings of some blocks. -/
def Block.fragmentsOfAll : List Block → List Fragment
  | [] => []
  | b :: rest => b.fragments ++ Block.fragmentsOfAll rest

end

/-- The strings of a diagnostic and its causes. -/
def Diagnostic.fragments (d : Diagnostic) : List Fragment :=
  d.reports.flatMap fun r => Block.fragmentsOfAll r.blocks

/-- A glyph table without a character in any of its marks. -/
structure Glyphs.Avoids (g : Glyphs) (c : Char) : Prop where
  vertical : c ∉ g.vertical.toList
  horizontal : c ∉ g.horizontal.toList
  topCorner : c ∉ g.topCorner.toList
  bottomCorner : c ∉ g.bottomCorner.toList
  marker : c ∉ g.marker.toList
  ellipsis : c ∉ g.ellipsis.toList
  arrow : c ∉ g.arrow.toList
  newline : c ∉ g.newline.toList
  note : c ∉ g.note.toList
  pointer : c ∉ g.pointer.toList
  branch : c ∉ g.branch.toList

namespace Fragment

/-- A fragment without a character hides it. -/
theorem hides_of_not_mem {f : Fragment} {c : Char} (h : c ∉ f.text.toList) : f.Hides c :=
  fun hc => absurd hc h

/-- All fragments of strings that may be absent hide a character exactly if those of the present
ones do. -/
theorem forall_mem_present {cut : Cut} {texts : List (Option String)} {p : Fragment → Prop} :
    (∀ f ∈ present cut texts, p f) ↔ ∀ s, some s ∈ texts → p ⟨s, cut⟩ := by
  simp [present, List.reduceOption_mem_iff]

end Fragment

end Diagnostics
