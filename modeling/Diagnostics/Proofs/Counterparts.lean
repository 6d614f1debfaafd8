import Diagnostics.Excerpt.Draw
import Mathlib.Data.List.Forall2

/-!
# Corresponding drawings

Two tables may give marks of one length to all places but the arrow. Then what is drawn with one
table corresponds to what is drawn with the other: character by character the two are equal or stand
at one place of a mark. This file defines the correspondence of texts, pieces and lines, and shows
that it is kept by joining texts, by taking blanks away from the end and by printing.
-/

namespace Diagnostics

namespace Glyphs

/-- The marks of two tables that stand for each other, where they may differ. -/
def counterparts (g g' : Glyphs) : List (String × String) :=
  [(g.vertical, g'.vertical), (g.horizontal, g'.horizontal), (g.topCorner, g'.topCorner),
    (g.bottomCorner, g'.bottomCorner), (g.ellipsis, g'.ellipsis), (g.newline, g'.newline),
    (g.pointer, g'.pointer), (g.branch, g'.branch)]

/-- Two characters correspond if they are equal or stand at one place of two counterparts. -/
def Corresponding (g g' : Glyphs) (c d : Char) : Prop :=
  c = d ∨ ∃ marks ∈ g.counterparts g', (c, d) ∈ marks.1.toList.zip marks.2.toList

/-- Tables that draw alike: counterparts are of one length and blank at the same places, markers and
notes are the same, and the arrow of the first is one column wider. -/
structure Twins (g g' : Glyphs) : Prop where
  length_eq : ∀ marks ∈ g.counterparts g', marks.1.toList.length = marks.2.toList.length
  isBlank_eq : ∀ marks ∈ g.counterparts g', ∀ pair ∈ marks.1.toList.zip marks.2.toList,
    Text.isBlank pair.1 = Text.isBlank pair.2
  marker_eq : g.marker = g'.marker
  note_eq : g.note = g'.note
  arrow_length : g.arrow.length = g'.arrow.length + 1

/-- The table of ASCII characters draws like the table of box-drawing characters. -/
theorem ascii_twins_boxDrawing : Twins .ascii .boxDrawing := by
  constructor <;> decide

end Glyphs

namespace Text

variable {g g' : Glyphs} {s s' t t' : String}

/-- Texts of one length whose characters correspond. -/
def Alike (g g' : Glyphs) (s t : String) : Prop :=
  List.Forall₂ (g.Corresponding g') s.toList t.toList

/-- A text is like itself. -/
theorem Alike.refl (s : String) : Alike g g' s s :=
  List.forall₂_same.mpr fun _ _ => Or.inl rfl

/-- Texts that are alike are of one length. -/
theorem Alike.length_eq (h : Alike g g' s t) : s.length = t.length := by
  rw [← String.length_toList, ← String.length_toList]
  exact List.Forall₂.length_eq h

/-- Texts side by side. -/
theorem Alike.append (h : Alike g g' s t) (h' : Alike g g' s' t') :
    Alike g g' (s ++ s') (t ++ t') := by
  rw [Alike, String.toList_append, String.toList_append]
  exact List.rel_append h h'

/-- A list of texts side by side. -/
theorem Alike.join {texts texts' : List String} (h : List.Forall₂ (Alike g g') texts texts') :
    Alike g g' (String.join texts) (String.join texts') := by
  rw [Alike, String.toList_join, String.toList_join]
  exact List.rel_flatMap h fun _ _ halike => halike

/-- A text written several times over. -/
theorem Alike.replicate (h : Alike g g' s t) (n : ℕ) :
    Alike g g' (replicate n s) (replicate n t) := by
  refine Alike.join ?_
  induction n with
  | zero => exact .nil
  | succ n ih => exact .cons h ih

/-- Characters that correspond are blank together. -/
theorem isBlank_eq_of_corresponding (hg : g.Twins g') {c d : Char} (h : g.Corresponding g' c d) :
    isBlank c = isBlank d := by
  rcases h with rfl | ⟨marks, hmarks, hpair⟩
  · rfl
  · exact hg.isBlank_eq marks hmarks (c, d) hpair

/-- Blanks at the beginning of alike texts are in the same places. -/
theorem forall₂_dropBlanks (hg : g.Twins g') {cs ds : List Char}
    (h : List.Forall₂ (g.Corresponding g') cs ds) :
    List.Forall₂ (g.Corresponding g') (dropBlanks cs) (dropBlanks ds) := by
  induction h with
  | nil => exact .nil
  | @cons c d cs ds hcd htail ih =>
    have hblank := isBlank_eq_of_corresponding hg hcd
    cases hc : isBlank c with
    | true =>
      rw [hc] at hblank
      rw [dropBlanks, dropBlanks, List.dropWhile_cons_of_pos hc,
        List.dropWhile_cons_of_pos hblank.symm]
      exact ih
    | false =>
      rw [hc] at hblank
      rw [dropBlanks, dropBlanks, List.dropWhile_cons_of_neg (by rw [hc]; decide),
        List.dropWhile_cons_of_neg (by rw [← hblank]; decide)]
      exact .cons hcd htail

/-- Taking blanks away from the end. -/
theorem Alike.trimEnd (hg : g.Twins g') (h : Alike g g' s t) :
    Alike g g' (trimEnd s) (trimEnd t) := by
  rw [Alike, Text.trimEnd, Text.trimEnd, String.toList_ofList, String.toList_ofList]
  exact List.rel_reverse (forall₂_dropBlanks hg (List.rel_reverse h))

end Text

namespace Glyphs

variable {g g' : Glyphs}

/-- Each mark of one table is like its counterpart in another. -/
structure AlikeMarks (g g' : Glyphs) : Prop where
  vertical : Text.Alike g g' g.vertical g'.vertical
  horizontal : Text.Alike g g' g.horizontal g'.horizontal
  topCorner : Text.Alike g g' g.topCorner g'.topCorner
  bottomCorner : Text.Alike g g' g.bottomCorner g'.bottomCorner
  ellipsis : Text.Alike g g' g.ellipsis g'.ellipsis
  newline : Text.Alike g g' g.newline g'.newline
  pointer : Text.Alike g g' g.pointer g'.pointer
  branch : Text.Alike g g' g.branch g'.branch

/-- Counterparts of tables that draw alike are alike. -/
theorem Twins.alike (hg : g.Twins g') {s t : String} (h : (s, t) ∈ g.counterparts g') :
    Text.Alike g g' s t :=
  List.forall₂_iff_zip.mpr ⟨hg.length_eq _ h, fun hpair => Or.inr ⟨_, h, hpair⟩⟩

/-- Tables that draw alike have alike marks. -/
theorem Twins.alikeMarks (hg : g.Twins g') : AlikeMarks g g' := by
  constructor <;> exact hg.alike (by simp [counterparts])

end Glyphs

/-- Pieces in one ink with texts that are alike. -/
structure Piece.Alike (g g' : Glyphs) (p q : Piece) : Prop where
  ink : p.ink = q.ink
  text : Text.Alike g g' p.text q.text

section Lines

variable {g g' : Glyphs}

/-- A piece is like itself. -/
theorem Piece.Alike.refl (p : Piece) : Piece.Alike g g' p p :=
  ⟨rfl, .refl p.text⟩

/-- Texts that are alike make plain pieces that are alike. -/
theorem Piece.Alike.plain {s t : String} (h : Text.Alike g g' s t) :
    Piece.Alike g g' { text := s } { text := t } :=
  ⟨rfl, h⟩

/-- Texts that are alike are alike in the ink of a severity. -/
theorem Piece.Alike.paint (level : Severity) {s t : String} (h : Text.Alike g g' s t) :
    Piece.Alike g g' (level.paint s) (level.paint t) :=
  ⟨rfl, h⟩

/-- Pieces that are alike are printed alike: of two texts of one length both are empty or neither
is, so both are emphasised or neither is. -/
theorem Piece.Alike.print {p q : Piece} (h : Piece.Alike g g' p q) (color : Bool) :
    Text.Alike g g' (p.print color) (q.print color) := by
  have hempty : p.text.isEmpty = q.text.isEmpty := by
    rw [Bool.eq_iff_iff, String.isEmpty_iff, String.isEmpty_iff, ← String.length_eq_zero_iff,
      ← String.length_eq_zero_iff, h.text.length_eq]
  unfold Piece.print
  rw [h.ink, hempty]
  split
  · exact h.text
  · split
    · exact ((Text.Alike.refl _).append h.text).append (.refl _)
    · exact h.text

namespace Line

variable {a a' b b' : Line}

/-- Lines of pieces that are alike. -/
def Alike (g g' : Glyphs) (a b : Line) : Prop :=
  List.Forall₂ (Piece.Alike g g') a b

/-- A line is like itself. -/
theorem Alike.refl (a : Line) : Alike g g' a a :=
  List.forall₂_same.mpr fun p _ => .refl p

/-- Lines side by side. -/
theorem Alike.append (h : Alike g g' a b) (h' : Alike g g' a' b') :
    Alike g g' (a ++ a') (b ++ b') :=
  List.rel_append h h'

/-- A line of one plain piece. -/
theorem Alike.plain {s t : String} (h : Text.Alike g g' s t) :
    Alike g g' (Line.plain s) (Line.plain t) :=
  .cons (.plain h) .nil

/-- A line of one piece in the ink of a severity. -/
theorem Alike.paint (level : Severity) {s t : String} (h : Text.Alike g g' s t) :
    Alike g g' [level.paint s] [level.paint t] :=
  .cons (.paint level h) .nil

/-- Lines that are alike are printed alike. -/
theorem Alike.print (h : Alike g g' a b) (color : Bool) :
    Text.Alike g g' (a.print color) (b.print color) := by
  rw [Line.print, Line.print]
  refine Text.Alike.join (List.forall₂_map_left_iff.mpr (List.forall₂_map_right_iff.mpr ?_))
  exact List.Forall₂.imp (fun _ _ hpiece => hpiece.print color) h

/-- A line is one column wider than another, printed in colour or not. -/
def OneWider (a b : Line) : Prop :=
  ∀ color, (a.print color).length = (b.print color).length + 1

/-- The length of a printed line is the sum of those of its parts. -/
theorem length_print_append (a b : Line) (color : Bool) :
    (print color (a ++ b)).length = (print color a).length + (print color b).length := by
  simp [print, String.length_join]

/-- What is alike may stand in front of lines of which one is wider. -/
theorem OneWider.append_left (h : OneWider a b) (hfront : Alike g g' a' b') :
    OneWider (a' ++ a) (b' ++ b) := by
  intro color
  rw [length_print_append, length_print_append, h color, (hfront.print color).length_eq]
  omega

/-- Pieces that are alike may stand in front of lines of which one is wider. -/
theorem OneWider.cons {p q : Piece} (hpiece : Piece.Alike g g' p q) (h : OneWider a b) :
    OneWider (p :: a) (q :: b) := by
  have hfront : Alike g g' [p] [q] := .cons hpiece .nil
  have hwider : OneWider ([p] ++ a) ([q] ++ b) := h.append_left hfront
  exact hwider

/-- What is alike may stand behind lines of which one is wider. -/
theorem OneWider.append_right (h : OneWider a b) (hback : Alike g g' a' b') :
    OneWider (a ++ a') (b ++ b') := by
  intro color
  rw [length_print_append, length_print_append, h color, (hback.print color).length_eq]
  omega

end Line

end Lines

end Diagnostics
