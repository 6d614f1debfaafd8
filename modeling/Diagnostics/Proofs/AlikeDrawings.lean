import Diagnostics.Layout.Tree
import Diagnostics.Proofs.Counterparts

/-!
# Excerpts and headings with two tables

Excerpts, notes, tags and error stacks are drawn alike with two tables that draw alike: widths are
taken from marks of one length, and all else comes from the diagnostic. The metadata of a header is
the exception, since its lines begin with the arrow or are indented by its width.
-/

namespace Diagnostics

namespace Excerpt

variable {g g' : Glyphs} (hg : g.Twins g')
include hg

section Rows

/-- A cell is one mark or a space. -/
theorem alike_draw_cell (cell : Cell) : Text.Alike g g' (cell.draw g) (cell.draw g') := by
  have hmarks := hg.alikeMarks
  cases cell with
  | blank => exact .refl " "
  | bar => exact hmarks.vertical
  | run => exact hmarks.horizontal
  | opening => exact hmarks.topCorner
  | closing => exact hmarks.bottomCorner

/-- Cells side by side. -/
theorem alike_drawCells (cells : List Cell) :
    Text.Alike g g' (drawCells g cells) (drawCells g' cells) := by
  refine Text.Alike.join (List.forall₂_map_left_iff.mpr (List.forall₂_map_right_iff.mpr ?_))
  exact List.forall₂_same.mpr fun cell _ => alike_draw_cell hg cell

/-- The gutter. -/
theorem alike_drawGutter (width : ℕ) (number : String) :
    Text.Alike g g' (drawGutter g width number) (drawGutter g' width number) :=
  ((Text.Alike.refl _).append hg.alikeMarks.vertical).append (.refl " ")

/-- The hook of a second message, which is drawn out from the same width to the same column. -/
theorem alike_drawHook (column reach : ℕ) :
    Text.Alike g g' (drawHook g column reach) (drawHook g' column reach) := by
  have hmarks := hg.alikeMarks
  have hhook : Text.Alike g g' (Text.spaces (column - 1) ++ g.bottomCorner ++ g.horizontal)
      (Text.spaces (column - 1) ++ g'.bottomCorner ++ g'.horizontal) :=
    ((Text.Alike.refl _).append hmarks.bottomCorner).append hmarks.horizontal
  -- The hook is filled up to its column, so the fill must be of one length with both tables.
  simp only [drawHook, hhook.length_eq]
  exact hhook.append (hmarks.horizontal.replicate _)

/-- The line to the marker of a connector. -/
theorem alike_drawLead (column : ℕ) : Text.Alike g g' (drawLead g column) (drawLead g' column) :=
  hg.alikeMarks.horizontal.replicate _

/-- A head is as wide with both tables. -/
theorem width_head_eq (head : Head) : head.width g = head.width g' := by
  cases head with
  | pointer column width fill hint => rfl
  | hook column reach => exact (alike_drawHook hg column reach).length_eq
  | connector column hint => exact congrArg (· + 1) (alike_drawLead hg column).length_eq

/-- A head, whose marker is the same with both tables. -/
theorem alike_draw_head (level : Severity) (head : Head) :
    Line.Alike g g' (head.draw g level) (head.draw g' level) := by
  cases head with
  | pointer column width fill hint =>
    rw [Head.draw, Head.draw, hg.marker_eq]
    exact .refl _
  | hook column reach => exact .plain (alike_drawHook hg column reach)
  | connector column hint =>
    rw [Head.draw, Head.draw, hg.marker_eq]
    exact .cons (.plain (alike_drawLead hg column)) (Line.Alike.refl _)

/-- A row. -/
theorem alike_draw_row (width : ℕ) (level : Severity) (row : Row) :
    Line.Alike g g' (row.draw g width level) (row.draw g' width level) := by
  have hmarks := hg.alikeMarks
  have hfront (number : String) (cells : List Cell) :
      Text.Alike g g' (drawGutter g width number ++ drawCells g cells)
        (drawGutter g' width number ++ drawCells g' cells) :=
    (alike_drawGutter hg width number).append (alike_drawCells hg cells)
  cases row with
  | gap => exact .plain ((Text.Alike.refl _).append hmarks.ellipsis)
  | source line cells text lineFeed =>
    refine .plain (Text.Alike.trimEnd hg ((hfront _ cells).append ?_))
    cases lineFeed with
    | false => exact .refl text
    | true => exact (Text.Alike.refl text).append hmarks.newline
  | mark cells head message =>
    exact ((Line.Alike.plain (hfront "" cells)).append (alike_draw_head hg level head)).append
      (.refl _)
  | continued cells head message =>
    rw [Row.draw, Row.draw, width_head_eq hg]
    exact .plain (Text.Alike.trimEnd hg (((hfront "" cells).append (.refl _)).append (.refl _)))

end Rows

section Borders

/-- The top border. -/
theorem alike_topBorder (options : Options) :
    Text.Alike g g' (topBorder g options) (topBorder g' options) :=
  (hg.alikeMarks.topCorner.append hg.alikeMarks.horizontal).append (.refl _)

/-- The lines above the rows. -/
theorem alike_topLines (level : Severity) (width : ℕ) (options : Options) :
    List.Forall₂ (Line.Alike g g') (topLines g level width options)
      (topLines g' level width options) := by
  have hborder := alike_topBorder hg options
  unfold topLines
  cases Text.nonempty? options.title with
  | none =>
    exact .cons (.cons (.refl _) (.cons (.plain ((Text.Alike.refl " ").append hborder)) .nil)) .nil
  | some title =>
    refine .cons (.refl _) (List.rel_append (List.forall₂_same.mpr fun line _ => .refl line) ?_)
    exact .cons (.plain ((Text.Alike.refl _).append hborder)) .nil

/-- The lines below the rows, where a message is continued from the same width. -/
theorem alike_bottomLines (width : ℕ) (options : Options) :
    List.Forall₂ (Line.Alike g g') (bottomLines g width options)
      (bottomLines g' width options) := by
  have hborder : Text.Alike g g' (Text.spaces (width + 1) ++ g.bottomCorner ++ g.horizontal)
      (Text.spaces (width + 1) ++ g'.bottomCorner ++ g'.horizontal) :=
    ((Text.Alike.refl _).append hg.alikeMarks.bottomCorner).append hg.alikeMarks.horizontal
  unfold bottomLines
  cases Text.nonempty? options.finalMessage with
  | none => exact .cons (.plain hborder) .nil
  | some message =>
    simp only [hborder.length_eq]
    refine .cons (.plain ((hborder.append (.refl " ")).append (.refl _))) ?_
    exact List.forall₂_same.mpr fun line _ => .refl line

end Borders

/-- An excerpt has the same rows with both tables, so its lines are alike. -/
theorem alike_draw {e : Excerpt} {level : Severity} {as bs : List Line}
    (has : e.draw g level = .ok as) (hbs : e.draw g' level = .ok bs) :
    List.Forall₂ (Line.Alike g g') as bs := by
  unfold draw at has hbs
  cases hrows : e.rows with
  | error failure =>
    rw [hrows] at has
    cases has
  | ok rows =>
    rw [hrows] at has hbs
    obtain rfl := Except.ok.inj has
    obtain rfl := Except.ok.inj hbs
    refine List.rel_append (List.rel_append (alike_topLines hg _ _ _) ?_) (alike_bottomLines hg _ _)
    refine List.forall₂_map_left_iff.mpr (List.forall₂_map_right_iff.mpr ?_)
    exact List.forall₂_same.mpr fun row _ => alike_draw_row hg _ _ row

end Excerpt

namespace Layout

/-- A text beside two leads, if each of its lines is related beside them. -/
theorem forall₂_hanging {S : Line → Line → Prop} {lead lead' indent indent' : Line}
    (hlead : ∀ part, S (lead ++ Line.plain part) (lead' ++ Line.plain part))
    (hindent : ∀ part, S (indent ++ Line.plain part) (indent' ++ Line.plain part))
    (text : String) : List.Forall₂ S (hanging lead indent text) (hanging lead' indent' text) := by
  refine .cons (hlead _) (List.forall₂_map_left_iff.mpr (List.forall₂_map_right_iff.mpr ?_))
  exact List.forall₂_same.mpr fun part _ => hindent part

variable {g g' : Glyphs}

/-- A text beside leads that are alike. -/
theorem alike_hanging {lead lead' indent indent' : Line} (hlead : Line.Alike g g' lead lead')
    (hindent : Line.Alike g g' indent indent') (text : String) :
    List.Forall₂ (Line.Alike g g') (hanging lead indent text) (hanging lead' indent' text) :=
  forall₂_hanging (fun _ => hlead.append (.refl _)) (fun _ => hindent.append (.refl _)) text

/-- A text has as many lines beside a lead as it has by itself. -/
theorem length_hanging (lead indent : Line) (text : String) :
    (hanging lead indent text).length = (Text.physicalLines text).length := by
  simp [hanging, Text.physicalLines]

section Metadata

/-- Of two texts in the ink of a severity the longer one is printed as much wider. -/
theorem oneWider_paint (level : Severity) {s t : String} (hlength : s.length = t.length + 1)
    (ht : t ≠ "") : Line.OneWider [level.paint s] [level.paint t] := by
  have hs : s ≠ "" := by
    rintro rfl
    simp at hlength
  intro color
  cases color with
  | false => simpa [Line.print, Piece.print, Severity.paint, Severity.ink] using hlength
  | true =>
    simp [Line.print, Piece.print, Severity.paint, Severity.ink, Styled.embolden, hs, ht, hlength]
    omega

/-- A line of metadata begins with the arrow, or is indented by its width. -/
theorem oneWider_headerField (hg : g.Twins g') (level : Severity) (label : String)
    (value : Option String) (shown : Bool) :
    List.Forall₂ Line.OneWider (headerField g level label value shown)
      (headerField g' level label value shown) := by
  unfold headerField
  cases Text.nonempty? value with
  | none => exact .nil
  | some text =>
    cases shown with
    | false => exact .nil
    | true =>
      refine forall₂_hanging (fun part => ?_) (fun part => ?_) text
      · have harrow : Line.OneWider [level.paint (" " ++ g.arrow)]
            [level.paint (" " ++ g'.arrow)] := by
          refine oneWider_paint level ?_ ?_
          · rw [String.length_append, String.length_append, hg.arrow_length]
            omega
          · rw [Ne, String.append_eq_empty_iff]
            exact fun h => absurd h.1 (by decide)
        exact harrow.append_right (@Line.Alike.refl g g' _)
      · have hindent : Line.OneWider (Line.plain (Text.spaces (g.arrow.length + label.length + 3)))
            (Line.plain (Text.spaces (g'.arrow.length + label.length + 3))) := by
          intro color
          simp [Line.plain, Line.print, Piece.print, Text.spaces, hg.arrow_length]
          omega
        exact hindent.append_right (@Line.Alike.refl g g' _)

end Metadata

section Headings

variable (hg : g.Twins g') (level : Severity)
include hg

/-- A note. -/
theorem alike_note (title message : String) :
    List.Forall₂ (Line.Alike g g') (note g level title message) (note g' level title message) := by
  unfold note
  rw [hg.note_eq]
  exact List.forall₂_same.mpr fun line _ => .refl line

/-- A tag. -/
theorem alike_tag (label : String) :
    List.Forall₂ (Line.Alike g g') (tag g level label) (tag g' level label) := by
  unfold tag
  rw [hg.note_eq]
  exact List.forall₂_same.mpr fun line _ => .refl line

end Headings

section Stacks

/-- A frame, whose place is the same with both tables. -/
theorem alike_frame (level : Severity) {lead lead' indent indent' : Line}
    (hlead : Line.Alike g g' lead lead') (hindent : Line.Alike g g' indent indent') (f : Frame) :
    List.Forall₂ (Line.Alike g g') (frame level lead indent f) (frame level lead' indent' f) := by
  unfold frame
  cases Text.nonempty? f.message with
  | none => exact .cons (hlead.append (.refl _)) .nil
  | some message => exact alike_hanging ((hlead.append (.refl _)).append (.refl _)) hindent message

variable (hg : g.Twins g') (level : Severity)
include hg

/-- The line that opens an error. -/
theorem alike_errorLead (isCause : Bool) (error : StackError) :
    Text.Alike g g' (errorLead g isCause error) (errorLead g' isCause error) := by
  have hmarks := hg.alikeMarks
  unfold errorLead
  split
  · exact ((hmarks.branch.append (hmarks.horizontal.replicate 3)).append hmarks.pointer).append
      (.refl _)
  · refine (hmarks.topCorner.append hmarks.horizontal).append ?_
    split
    · exact .refl ""
    · exact hmarks.pointer

/-- The message of an error. -/
theorem alike_errorMessage (isCause : Bool) (error : StackError) :
    List.Forall₂ (Line.Alike g g') (errorMessage g level isCause error)
      (errorMessage g' level isCause error) := by
  have hmarks := hg.alikeMarks
  have hlead := alike_errorLead hg isCause error
  refine List.rel_append ?_ ?_
  · cases isCause with
    | false => exact .nil
    | true => exact .cons (.paint level hmarks.vertical) .nil
  · split
    · exact .cons (.paint level hlead) .nil
    · exact alike_hanging (.cons (.paint level hlead) (Line.Alike.refl _))
        (.paint level (hmarks.vertical.append (.refl _))) error.message

/-- The frames of an error. -/
theorem alike_frames (showNumbers : Bool) (digits above : ℕ) (fs : List Frame) :
    List.Forall₂ (Line.Alike g g') (frames g level showNumbers digits above fs)
      (frames g' level showNumbers digits above fs) := by
  have hbar := hg.alikeMarks.vertical
  induction fs with
  | nil => exact .nil
  | cons f rest ih =>
    refine List.rel_append (alike_frame level ?_ ?_ f) ih
    · exact .paint level ((hbar.append (.refl _)).append (.refl _))
    · exact .paint level ((hbar.append (.refl _)).append (.refl _))

/-- An error of a stack. -/
theorem alike_stackError (digits above : ℕ) (isCause : Bool) (error : StackError) :
    List.Forall₂ (Line.Alike g g') (stackError g level digits above isCause error)
      (stackError g' level digits above isCause error) :=
  List.rel_append (alike_errorMessage hg level isCause error) (alike_frames hg level _ _ _ _)

/-- The causes of a stack. -/
theorem alike_stackCauses (digits above : ℕ) (errors : List StackError) :
    List.Forall₂ (Line.Alike g g') (stackCauses g level digits above errors)
      (stackCauses g' level digits above errors) := by
  induction errors generalizing above with
  | nil => exact .nil
  | cons error rest ih => exact List.rel_append (alike_stackError hg level _ _ _ _) (ih _)

/-- A whole stack. -/
theorem alike_stack (s : Stack) :
    List.Forall₂ (Line.Alike g g') (stack g level s) (stack g' level s) := by
  have hmarks := hg.alikeMarks
  refine List.rel_append (List.rel_append (alike_stackError hg level _ _ _ _)
    (alike_stackCauses hg level _ _ _)) ?_
  exact .cons (.paint level (hmarks.bottomCorner.append hmarks.horizontal)) .nil

end Stacks

section Steps

variable (hg : g.Twins g') (level : Severity)
include hg

/-- The title of a list of steps. -/
theorem alike_stepsTitle (title : String) :
    List.Forall₂ (Line.Alike g g') (stepsTitle g level title) (stepsTitle g' level title) := by
  unfold stepsTitle
  split
  · exact List.forall₂_same.mpr fun line _ => .refl line
  · exact alike_hanging (.refl _) (.paint level (hg.alikeMarks.vertical.append (.refl _))) title

/-- The end of a list of steps. -/
theorem alike_stepsEnd (finalMessage : String) :
    List.Forall₂ (Line.Alike g g') (stepsEnd g level finalMessage)
      (stepsEnd g' level finalMessage) := by
  have hmarks := hg.alikeMarks
  have hborder := hmarks.bottomCorner.append hmarks.horizontal
  unfold stepsEnd
  split
  · exact .cons (.paint level hborder) .nil
  · exact alike_hanging (.cons (.paint level (hborder.append hmarks.pointer)) (Line.Alike.refl _))
      (.refl _) finalMessage

/-- The branch that leads a step. -/
theorem alike_stepBranch : Piece.Alike g g' (stepBranch g level) (stepBranch g' level) := by
  have hmarks := hg.alikeMarks
  exact .paint level (((hmarks.branch.append hmarks.horizontal).append hmarks.pointer).append
    (.refl _))

/-- The bar beside a step. -/
theorem alike_stepBar : Piece.Alike g g' (stepBar g level) (stepBar g' level) :=
  .paint level (hg.alikeMarks.vertical.append (.refl _))

end Steps

end Layout

end Diagnostics
