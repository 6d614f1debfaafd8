import Diagnostics.Proofs.Connectors

/-!
# Rows as they are printed

With marks of one character each, a printed row is a front of fixed length, the gutter and the
lanes, and what follows it. This file finds the cells of a row in its printed text. Blanks at the
end of a printed row may be missing.
-/

namespace Diagnostics

namespace Text

@[simp] theorem toList_spaces (n : ℕ) : (spaces n).toList = List.replicate n ' ' :=
  String.toList_ofList

@[simp] theorem length_spaces (n : ℕ) : (spaces n).length = n := by
  rw [← String.length_toList, toList_spaces, List.length_replicate]

/-- A field is as long as its text if that is longer than its width. -/
@[simp] theorem length_padLeft (width : ℕ) (s : String) :
    (padLeft width s).length = max width s.length := by
  rw [padLeft, String.length_append, length_spaces]
  omega

/-- A text of one character. -/
theorem exists_singleton_eq {s : String} (h : s.length = 1) : ∃ c, s = String.singleton c := by
  obtain ⟨c, hc⟩ := List.length_eq_one_iff.mp (String.length_toList.trans h)
  refine ⟨c, ?_⟩
  rw [← String.toList_inj, hc, String.toList_singleton]

/-- The character of a text of one character. -/
theorem eq_of_singleton_eq {c d : Char} (h : String.singleton c = String.singleton d) : c = d := by
  rw [← String.toList_inj, String.toList_singleton, String.toList_singleton] at h
  exact List.singleton_inj.mp h

/-- A character written several times over. -/
theorem toList_replicate_singleton (n : ℕ) (c : Char) :
    (replicate n (String.singleton c)).toList = List.replicate n c := by
  induction n with
  | zero => rfl
  | succ n ih =>
    rw [replicate, List.replicate_succ, String.join_cons, String.toList_append,
      String.toList_singleton, List.replicate_succ, ← ih]
    rfl

/-- Reading a place of a text gives the same with and without the blanks at its end, if what stands
there is a space or no blank and spaces are read past the end. -/
theorem getD_trimEnd {s : String} {n : ℕ} {c : Char} (hc : s.toList[n]? = some c)
    (hblank : c = ' ' ∨ isBlank c = false) : (trimEnd s).toList.getD n ' ' = c := by
  have hsplit : (trimEnd s).toList ++ s.toList.rtakeWhile isBlank = s.toList := by
    rw [trimEnd, String.toList_ofList]
    exact List.rdropWhile_append_rtakeWhile
  rw [← hsplit] at hc
  by_cases hkept : n < (trimEnd s).toList.length
  · rw [List.getElem?_append_left hkept] at hc
    rw [List.getD_eq_getElem?_getD, hc, Option.getD_some]
  · rw [List.getElem?_append_right (by omega)] at hc
    have hmem : c ∈ s.toList.rtakeWhile isBlank := List.mem_of_getElem? hc
    have hspace : c = ' ' := by
      rcases hblank with hspace | hseen
      · exact hspace
      · have hlost : isBlank c = true := List.mem_rtakeWhile_imp hmem
        rw [hseen] at hlost
        cases hlost
    rw [List.getD_eq_getElem?_getD, List.getElem?_eq_none (by omega), Option.getD_none, hspace]

end Text

/-- The marks that columns are measured in are single characters. -/
structure Glyphs.Single (g : Glyphs) : Prop where
  vertical : g.vertical.length = 1
  horizontal : g.horizontal.length = 1
  topCorner : g.topCorner.length = 1
  bottomCorner : g.bottomCorner.length = 1
  marker : g.marker.length = 1

/-- The marks of lanes are single characters that can be seen. -/
structure Glyphs.Visible (g : Glyphs) : Prop extends Glyphs.Single g where
  vertical_seen : g.vertical.toList.any Text.isBlank = false
  horizontal_seen : g.horizontal.toList.any Text.isBlank = false
  topCorner_seen : g.topCorner.toList.any Text.isBlank = false
  bottomCorner_seen : g.bottomCorner.toList.any Text.isBlank = false

/-- The table of box-drawing characters has marks that can be seen. -/
theorem Glyphs.boxDrawing_visible : Glyphs.boxDrawing.Visible := by
  constructor
  · constructor <;> decide
  all_goals decide

/-- The table of ASCII characters has marks that can be seen. -/
theorem Glyphs.ascii_visible : Glyphs.ascii.Visible := by
  constructor
  · constructor <;> decide
  all_goals decide

namespace Excerpt

section Front

variable {g : Glyphs}

/-- Cells are one column wide. -/
theorem length_draw_cell (h : g.Single) (cell : Cell) : (cell.draw g).length = 1 := by
  cases cell with
  | blank => exact (by decide : " ".length = 1)
  | bar => exact h.vertical
  | run => exact h.horizontal
  | opening => exact h.topCorner
  | closing => exact h.bottomCorner

/-- A cell is blank or can be seen. -/
theorem isBlank_draw_cell (h : g.Visible) (cell : Cell) {c : Char} (hc : c ∈ (cell.draw g).toList) :
    c = ' ' ∨ Text.isBlank c = false := by
  have hseen : ∀ s : String, s.toList.any Text.isBlank = false → c ∈ s.toList →
      Text.isBlank c = false := by
    intro s hs hmem
    simpa using List.any_eq_false.mp hs c hmem
  cases cell with
  | blank => exact Or.inl (by simpa [Cell.draw] using hc)
  | bar => exact Or.inr (hseen _ h.vertical_seen hc)
  | run => exact Or.inr (hseen _ h.horizontal_seen hc)
  | opening => exact Or.inr (hseen _ h.topCorner_seen hc)
  | closing => exact Or.inr (hseen _ h.bottomCorner_seen hc)

/-- As many columns as cells. -/
theorem length_drawCells (h : g.Single) (cells : List Cell) :
    (drawCells g cells).length = cells.length := by
  induction cells with
  | nil => rfl
  | cons cell cells ih =>
    have hcell := length_draw_cell h cell
    rw [drawCells] at ih
    rw [drawCells, List.map_cons, String.join_cons, String.length_append, hcell, ih,
      List.length_cons, Nat.add_comm]

/-- Each cell stands in its column. -/
theorem drawCells_getElem? (h : g.Single) {cells : List Cell} {k : ℕ} {cell : Cell}
    (hk : cells[k]? = some cell) :
    ∃ c, (drawCells g cells).toList[k]? = some c ∧ cell.draw g = String.singleton c := by
  induction cells generalizing k with
  | nil => simp at hk
  | cons first cells ih =>
    obtain ⟨c, hc⟩ := Text.exists_singleton_eq (length_draw_cell h first)
    have hdrawn : (drawCells g (first :: cells)).toList = c :: (drawCells g cells).toList := by
      rw [drawCells, List.map_cons, String.join_cons, String.toList_append, hc,
        String.toList_singleton]
      rfl
    rw [hdrawn]
    cases k with
    | zero =>
      rw [List.getElem?_cons_zero, Option.some.injEq] at hk
      subst hk
      exact ⟨c, rfl, hc⟩
    | succ k => exact ih hk

/-- The gutter is three columns wider than the numbers in it. -/
theorem length_drawGutter (h : g.Single) {width : ℕ} {number : String}
    (hnumber : number.length ≤ width) : (drawGutter g width number).length = width + 3 := by
  have hvertical := h.vertical
  simp only [drawGutter, String.length_append, Text.length_padLeft, hvertical,
    Nat.max_eq_left hnumber]
  rfl

end Front

/-- What stands in the gutter of a row: the number of a line of the source. -/
def Row.number : Row → String
  | .source line _ _ _ => line.repr
  | .gap | .mark _ _ _ | .continued _ _ _ => ""

/-- The gutter and the lanes of a row. -/
def Row.front (g : Glyphs) (width : ℕ) (row : Row) : String :=
  drawGutter g width row.number ++ drawCells g row.cells

/-- What stands right of the lanes of a row. -/
def Row.body (g : Glyphs) (level : Severity) : Row → String
  | .gap => ""
  | .source _ _ text lineFeed => if lineFeed then text ++ g.newline else text
  | .mark _ head message => (head.draw g level ++ drawMessage message).text
  | .continued _ head message => Text.spaces (head.width g + 1) ++ message

/-- The text of a row without colour. -/
def Row.printed (g : Glyphs) (width : ℕ) (level : Severity) (row : Row) : String :=
  (row.draw g width level).print false

section Printed

variable {g : Glyphs} {width k : ℕ} {level : Severity} {row : Row}

/-- Plain text is printed as it is. -/
theorem text_plain (s : String) : (Line.plain s).text = s := by
  rw [Line.text, Line.plain, List.map_singleton, String.join_cons, String.join_nil,
    String.append_empty]

/-- Pieces are printed one after another. -/
theorem text_append (left right : Line) :
    Line.text (left ++ right) = Line.text left ++ Line.text right := by
  rw [Line.text, Line.text, Line.text, List.map_append, String.join_append]

/-- A row is printed as its front and its body, possibly without the blanks at its end. -/
theorem printed_eq (g : Glyphs) (width : ℕ) (level : Severity) (hrow : row ≠ .gap) :
    row.printed g width level = row.front g width ++ row.body g level ∨
      row.printed g width level = Text.trimEnd (row.front g width ++ row.body g level) := by
  cases row with
  | gap => exact absurd rfl hrow
  | source line cells text lineFeed =>
    right
    rw [Row.printed, Line.print_false, Row.draw, text_plain]
    rfl
  | mark cells head message =>
    left
    rw [Row.printed, Line.print_false, Row.draw, List.append_assoc, text_append, text_plain]
    rfl
  | continued cells head message =>
    right
    rw [Row.printed, Line.print_false, Row.draw, text_plain, Row.front, Row.body, Row.number,
      Row.cells, String.append_assoc]

/-- The front of a row has the columns of the gutter and of the cells. -/
theorem length_front (h : g.Single) (hnumber : row.number.length ≤ width) :
    (row.front g width).length = width + 3 + row.cells.length := by
  rw [Row.front, String.length_append, length_drawGutter h hnumber, length_drawCells h]

/-- Each cell of a row is found in its column of the printed text. -/
theorem printed_getD (h : g.Visible) (hnumber : row.number.length ≤ width) {cell : Cell}
    (hk : row.cells[k]? = some cell) :
    String.singleton ((row.printed g width level).toList.getD (width + 3 + k) ' ') =
      cell.draw g := by
  obtain ⟨c, hc, hcell⟩ := drawCells_getElem? h.toSingle hk
  have hgutter := length_drawGutter h.toSingle hnumber
  have hmem : c ∈ (cell.draw g).toList := by
    rw [hcell, String.toList_singleton]
    exact List.mem_singleton_self c
  have hblank : c = ' ' ∨ Text.isBlank c = false := isBlank_draw_cell h cell hmem
  have hrow : row ≠ .gap := by
    rintro rfl
    simp [Row.cells] at hk
  have hfull : (row.front g width ++ row.body g level).toList[width + 3 + k]? = some c := by
    have hlength : k < (drawCells g row.cells).toList.length := (List.getElem?_eq_some_iff.mp hc).1
    rw [Row.front, String.append_assoc, String.toList_append, List.getElem?_append_right
      (by rw [String.length_toList, hgutter]; omega), String.length_toList, hgutter,
      Nat.add_sub_cancel_left, String.toList_append, List.getElem?_append_left hlength, hc]
  have hread : (row.printed g width level).toList.getD (width + 3 + k) ' ' = c := by
    rcases printed_eq g width level hrow with hprinted | hprinted
    · rw [hprinted, List.getD_eq_getElem?_getD, hfull, Option.getD_some]
    · rw [hprinted]
      exact Text.getD_trimEnd hfull hblank
  rw [hread, hcell]

end Printed

/-- The number of a displayed line fits the gutter. -/
theorem length_repr_le_gutterWidth {e : Excerpt} {line : ℕ} (hline : line ∈ e.displayedLines) :
    line.repr.length ≤ e.gutterWidth := by
  unfold gutterWidth
  cases hlast : e.displayedLines.getLast? with
  | none =>
    rw [List.getLast?_eq_none_iff.mp hlast] at hline
    exact absurd hline List.not_mem_nil
  | some last =>
    have hle := le_getLast?_of_pairwise e.pairwise_displayedLines hlast hline
    have hpos : 0 < last.repr.length := Nat.length_repr_pos
    have hlt : last < 10 ^ last.repr.length := (Nat.length_repr_le_iff hpos).mp le_rfl
    exact (Nat.length_repr_le_iff hpos).mpr (by omega)

end Excerpt

end Diagnostics
