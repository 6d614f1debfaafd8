import Diagnostics.Proofs.PrintedRows

/-!
# Connectors in a drawn excerpt

Every highlight over several lines has a lane of its own, and the rows of the excerpt show its
connector in that lane from the corner that opens it to the corner that closes it. The cells of each
row are what is printed in the columns of the lanes.
-/

namespace Diagnostics.Excerpt

section Corners

variable {k : ℕ} {row : Row} {isOpen : Bool}

/-- A row that shows the state of a lane has no corner in it. -/
theorem Row.Shows.not_hasCorner (h : row.Shows k isOpen) : ¬row.HasCorner k := by
  obtain ⟨cell, hcell, hopening, hclosing⟩ :
      ∃ cell, row.cells[k]? = some cell ∧ cell ≠ .opening ∧ cell ≠ .closing := by
    rcases h with hcell | ⟨hcell, -⟩
    · exact ⟨_, hcell, by cases isOpen <;> decide⟩
    · exact ⟨_, hcell, by decide⟩
  rintro (hcorner | hcorner)
  · rw [hcell] at hcorner
    exact hopening (Option.some.inj hcorner)
  · rw [hcell] at hcorner
    exact hclosing (Option.some.inj hcorner)

/-- A row that is clear of a lane has no corner in it. -/
theorem Row.Clear.not_hasCorner (h : row.Clear k) : ¬row.HasCorner k := by
  rcases h with rfl | h
  · rintro (hcorner | hcorner) <;> cases hcorner
  · exact h.not_hasCorner

end Corners

section Rows

variable {e : Excerpt} {line : ℕ} {row : Row}

/-- The rows under a line have no number. -/
theorem number_of_mem_rowsUnder (h : e.Resolved) (hrow : row ∈ e.rowsUnder line) :
    row.number = "" := by
  obtain ⟨⟨a, i⟩, hmem, hrow⟩ := List.mem_flatMap.mp hrow
  have hi := List.mk_mem_zipIdx_iff_getElem?.mp hmem
  have hlines := (h.line_bounds (List.mem_of_getElem? hi)).2.1
  obtain ⟨cells, below, head, message, hmessage, -⟩ :=
    exists_messageRows_of_mem_rowsOf hi hlines hrow
  rcases mark_or_continued_of_mem hmessage with ⟨first, rfl⟩ | ⟨part, rfl⟩
  · rfl
  · rfl

/-- The number of any row fits the gutter. -/
theorem length_number_le_gutterWidth (h : e.Resolved)
    (hrow : row ∈ e.displayedLines.flatMap e.lineRows) : row.number.length ≤ e.gutterWidth := by
  obtain ⟨line, hline, hrow⟩ := List.mem_flatMap.mp hrow
  rcases List.mem_append.mp hrow with hrow | hrow
  · rw [eq_gap_of_mem_gapAbove hrow]
    exact Nat.zero_le _
  · rcases List.mem_cons.mp hrow with rfl | hrow
    · exact length_repr_le_gutterWidth hline
    · rw [number_of_mem_rowsUnder h hrow]
      exact Nat.zero_le _

end Rows

section CornerRows

variable {e : Excerpt} {i : ℕ} {a : Highlight}

/-- The lanes under a line have one cell for each, whichever highlight's rows are drawn. -/
theorem laneOf_lt_length_lanesAt (line m : ℕ) (hi : e.highlights[i]? = some a)
    (hlane : a.multiline = true) :
    laneOf e.highlights i < (lanesAt e.highlights line m).length := by
  rw [length_lanesAt]
  exact laneOf_lt_laneCount hi hlane

/-- The opening row has its corner in the lane of its highlight. -/
theorem openingRow_cells_getElem? (hi : e.highlights[i]? = some a) (hlane : a.multiline = true) :
    (e.openingRow i a).cells[laneOf e.highlights i]? = some .opening :=
  cornerCells_getElem?_self _ (laneOf_lt_length_lanesAt _ _ hi hlane).le

/-- The closing row has its corner in the lane of its highlight. -/
theorem closingRow_cells_getElem? (hi : e.highlights[i]? = some a) (hlane : a.multiline = true) :
    (e.closingRow i a).cells[laneOf e.highlights i]? = some .closing :=
  cornerCells_getElem?_self _ (laneOf_lt_length_lanesAt _ _ hi hlane).le

/-- Beside a corner in the lane of highlight number `i`, the lanes further left show whether they
are open below the line, and a line crosses those further right. -/
theorem cornerCells_lanesAt (line : ℕ) (corner : Cell) :
    (∀ k b, k < laneOf e.highlights i → (laneHolders e.highlights)[k]? = some b →
      ((lanesAt e.highlights line i).cornerCells (laneOf e.highlights i) corner)[k]? =
        some (Lanes.cell (b.openBelow line))) ∧
    ∀ k, laneOf e.highlights i < k → k ≤ laneCount e.highlights →
      ((lanesAt e.highlights line i).cornerCells (laneOf e.highlights i) corner)[k]? =
        some .run := by
  constructor
  · intro k b hk hb
    apply cornerCells_getElem?_of_lt corner hk
    rw [lanesAt_getElem?, hb, Option.map_some, if_pos hk]
  · intro k hk hcount
    apply cornerCells_getElem?_of_gt corner hk
    rw [length_lanesAt]
    exact hcount

/-- The opening row stands under the first line of its highlight. -/
theorem openingRow_mem_rowsUnder (h : e.Resolved) (hi : e.highlights[i]? = some a)
    (hlane : a.multiline = true) : e.openingRow i a ∈ e.rowsUnder a.start.line := by
  have hlines := (h.line_bounds (List.mem_of_getElem? hi)).2.1
  obtain ⟨before, after, hrows, -⟩ := exists_rowsUnder_eq h a.start.line hi hlane
  obtain ⟨rest, hopening, -⟩ := exists_rowsOf_start hi hlane hlines
  rw [hrows, hopening]
  simp

/-- The closing row stands under the last line of its highlight. -/
theorem closingRow_mem_rowsUnder (h : e.Resolved) (hi : e.highlights[i]? = some a)
    (hlane : a.multiline = true) : e.closingRow i a ∈ e.rowsUnder a.stop.line := by
  obtain ⟨before, after, hrows, -⟩ := exists_rowsUnder_eq h a.stop.line hi hlane
  obtain ⟨rest, hclosing, -⟩ := exists_rowsOf_stop hi hlane
  rw [hrows, hclosing]
  simp

/-- Rows without a corner in a lane have neither an opening nor a closing one there. -/
theorem filter_corner_eq_nil {rows : List Row} {k : ℕ} (h : ∀ row ∈ rows, ¬row.HasCorner k) :
    rows.filter (·.cells[k]? = some .opening) = [] ∧
      rows.filter (·.cells[k]? = some .closing) = [] := by
  simp only [List.filter_eq_nil_iff, decide_eq_true_eq]
  constructor
  · intro row hrow hcell
    exact h row hrow (Or.inl hcell)
  · intro row hrow hcell
    exact h row hrow (Or.inr hcell)

/-- Among all rows, the lane of a highlight has one corner that opens it and one that closes it. -/
theorem filter_corner_eq (h : e.Resolved) (hi : e.highlights[i]? = some a)
    (hlane : a.multiline = true) :
    (e.displayedLines.flatMap e.lineRows).filter
        (·.cells[laneOf e.highlights i]? = some .opening) = [e.openingRow i a] ∧
      (e.displayedLines.flatMap e.lineRows).filter
        (·.cells[laneOf e.highlights i]? = some .closing) = [e.closingRow i a] := by
  obtain ⟨above, between, below, hrows, habove, hbetween, hbelow⟩ := exists_column h hi hlane
  have hopening := openingRow_cells_getElem? hi hlane
  have hclosing := closingRow_cells_getElem? hi hlane
  obtain ⟨haboveOpen, haboveClose⟩ :=
    filter_corner_eq_nil fun row hrow => (habove row hrow).not_hasCorner
  obtain ⟨hbetweenOpen, hbetweenClose⟩ :=
    filter_corner_eq_nil fun row hrow => (hbetween row hrow).not_hasCorner
  obtain ⟨hbelowOpen, hbelowClose⟩ :=
    filter_corner_eq_nil fun row hrow => (hbelow row hrow).not_hasCorner
  rw [hrows]
  constructor
  · rw [List.filter_append, List.filter_cons_of_pos (by simp [hopening]), List.filter_append,
      List.filter_cons_of_neg (by simp [hclosing]), haboveOpen, hbetweenOpen, hbelowOpen]
    rfl
  · rw [List.filter_append, List.filter_cons_of_neg (by simp [hopening]), List.filter_append,
      List.filter_cons_of_pos (by simp [hclosing]), haboveClose, hbetweenClose, hbelowClose]
    rfl

end CornerRows

/-- The connector of highlight number `i` among the rows of an excerpt. -/
structure Connector (e : Excerpt) (rows : List Row) (i : ℕ) (a : Highlight) : Prop where
  /-- Lanes are numbered from the left. -/
  lane_lt : laneOf e.highlights i < laneCount e.highlights
  /-- Lanes are in the order of the highlights. -/
  lane_order : ∀ m, laneOf e.highlights i < laneOf e.highlights m ↔ i < m
  /-- Beside a line of the source stands a bar exactly if the highlight began further up and has not
  ended above the line. -/
  source_cell : ∀ line ∈ e.displayedLines,
    (e.sourceRowAt line).cells[laneOf e.highlights i]? =
      some (if a.start.line < line ∧ line ≤ a.stop.line then .bar else .blank)
  /-- When the rows of a line have been drawn, the lane is open exactly if the highlight has begun
  and ends further down. -/
  state : ∀ drawn line rest, e.displayedLines = drawn ++ line :: rest →
    (e.linesRows none (.closed (laneCount e.highlights)) (drawn ++ [line])).2[
      laneOf e.highlights i]? = some (decide (a.start.line ≤ line ∧ line < a.stop.line))
  /-- The lane has one opening corner, under the first line of the highlight. -/
  opens : rows.filter (·.cells[laneOf e.highlights i]? = some .opening) = [e.openingRow i a] ∧
    e.openingRow i a ∈ e.rowsUnder a.start.line
  /-- The lane has one closing corner, under the last line of the highlight. -/
  closes : rows.filter (·.cells[laneOf e.highlights i]? = some .closing) = [e.closingRow i a] ∧
    e.closingRow i a ∈ e.rowsUnder a.stop.line
  /-- Beside the opening corner the lanes further left show whether they are open, and a line
  crosses all lanes further right. -/
  opening_cells :
    (∀ k b, k < laneOf e.highlights i → (laneHolders e.highlights)[k]? = some b →
      (e.openingRow i a).cells[k]? =
        some (if b.start.line ≤ a.start.line ∧ a.start.line < b.stop.line then .bar else .blank)) ∧
    ∀ k, laneOf e.highlights i < k → k ≤ laneCount e.highlights →
      (e.openingRow i a).cells[k]? = some .run
  /-- Beside the closing corner it is the same. -/
  closing_cells :
    (∀ k b, k < laneOf e.highlights i → (laneHolders e.highlights)[k]? = some b →
      (e.closingRow i a).cells[k]? =
        some (if b.start.line ≤ a.stop.line ∧ a.stop.line < b.stop.line then .bar else .blank)) ∧
    ∀ k, laneOf e.highlights i < k → k ≤ laneCount e.highlights →
      (e.closingRow i a).cells[k]? = some .run
  /-- The opening corner comes first. Between the corners each row shows a bar, and outside nothing,
  or the line of a corner further left; lines are left out only outside. -/
  column : ∃ above between below,
    rows = above ++ e.openingRow i a :: (between ++ e.closingRow i a :: below) ∧
    (∀ row ∈ above, row.Clear (laneOf e.highlights i)) ∧
    (∀ row ∈ between, row.Shows (laneOf e.highlights i) true) ∧
    ∀ row ∈ below, row.Clear (laneOf e.highlights i)

/-- The lanes when some displayed lines have been drawn, from the first on. -/
theorem linesRows_snd {e : Excerpt} (h : e.Resolved) {drawn rest : List ℕ} {line : ℕ}
    (hlines : e.displayedLines = drawn ++ line :: rest) :
    (e.linesRows none (.closed (laneCount e.highlights)) (drawn ++ [line])).2 =
      (laneHolders e.highlights).map (·.openBelow line) := by
  have hsplit : e.displayedLines = [] ++ (drawn ++ [line]) ++ rest := by
    rw [hlines, List.nil_append, List.append_assoc, List.singleton_append]
  have hdrawn := linesRows_eq h hsplit
  have hstart : e.lanesBehind [] = .closed (laneCount e.highlights) := rfl
  rw [hstart, List.nil_append, List.getLast?_nil] at hdrawn
  rw [hdrawn, lanesBehind, List.getLast?_concat]

/-- The cell of a lane that is open under a condition. -/
theorem cell_decide (p : Prop) [Decidable p] :
    Lanes.cell (decide p) = if p then .bar else .blank := by
  by_cases hp : p <;> simp [Lanes.cell, hp]

/-- Each highlight over several lines has its connector among the rows. -/
theorem Resolved.connector {e : Excerpt} (h : e.Resolved) {i : ℕ} {a : Highlight}
    (hi : e.highlights[i]? = some a) (hlane : a.multiline = true) :
    e.Connector (e.displayedLines.flatMap e.lineRows) i a := by
  obtain ⟨hopens, hcloses⟩ := filter_corner_eq h hi hlane
  have hleft : ∀ b line, Lanes.cell (Highlight.openBelow line b) =
      if b.start.line ≤ line ∧ line < b.stop.line then Cell.bar else Cell.blank :=
    fun b line => cell_decide _
  constructor
  · exact laneOf_lt_laneCount hi hlane
  · intro m
    exact laneOf_lt_laneOf_iff hi hlane
  · intro line _
    rw [sourceRowAt_cells_getElem? line hi hlane, Highlight.openAbove, cell_decide]
  · intro drawn line rest hlines
    rw [linesRows_snd h hlines, List.getElem?_map, laneHolders_laneOf hi hlane, Option.map_some]
    rfl
  · exact ⟨hopens, openingRow_mem_rowsUnder h hi hlane⟩
  · exact ⟨hcloses, closingRow_mem_rowsUnder h hi hlane⟩
  · simp only [← hleft]
    exact cornerCells_lanesAt a.start.line .opening
  · simp only [← hleft]
    exact cornerCells_lanesAt a.stop.line .closing
  · exact exists_column h hi hlane

/-- An excerpt that has rows has those of its displayed lines, and leaves every lane closed whatever
an earlier drawing left open. -/
theorem Resolved.drawRows_eq_of_rows {e : Excerpt} {rows : List Row} (h : e.Resolved)
    (hrows : e.rows = .ok rows) :
    rows = e.displayedLines.flatMap e.lineRows ∧
      ∀ lanes, e.drawRows lanes = (.ok rows, .closed (laneCount e.highlights)) := by
  obtain ⟨htext, hne⟩ := h.exists_rows_iff.mp ⟨rows, hrows⟩
  have hall := h.rows_eq htext hne
  rw [hrows, Except.ok.injEq] at hall
  refine ⟨hall, fun lanes => ?_⟩
  rw [h.drawRows_eq htext hne, hall]

/-- Without colour an excerpt is printed as its borders and, between them, its rows. -/
theorem print_draw {e : Excerpt} {rows : List Row} (hrows : e.rows = .ok rows) (g : Glyphs)
    (level : Severity) :
    (e.draw g level).map (·.map (Line.print false)) =
      .ok ((topLines g level e.gutterWidth e.options).map (Line.print false) ++
        rows.map (Row.printed g e.gutterWidth level) ++
        (bottomLines g e.gutterWidth e.options).map (Line.print false)) := by
  have hdraw : e.draw g level = .ok (e.frame g level rows) := by rw [draw, hrows]; rfl
  rw [hdraw, frame, frameOfWidth, Except.map, List.map_append, List.map_append, List.map_map]
  rfl

/-- Connectors are drawn correctly. The rows of an excerpt with highlights on its source are those
of its displayed lines, each with the rows of the highlights under it; the highlights over several
lines hold the lanes, one each and in their order, and each has its connector in its lane; when all
is drawn no lane is open, whatever an earlier drawing left open. Printed without colour, with marks
that are single characters and can be seen, every cell is found in its column. -/
theorem connectors_of_rows {e : Excerpt} {rows : List Row} (h : e.Resolved)
    (hrows : e.rows = .ok rows) :
    rows = e.displayedLines.flatMap
      (fun line => e.gapAbove line ++ e.sourceRowAt line :: e.rowsUnder line) ∧
    (∀ lanes, e.drawRows lanes = (.ok rows, .closed (laneCount e.highlights))) ∧
    (∀ k < laneCount e.highlights, ∃ i a, e.highlights[i]? = some a ∧ a.multiline = true ∧
      laneOf e.highlights i = k) ∧
    (∀ i a, e.highlights[i]? = some a → a.multiline = true → e.Connector rows i a) ∧
    ∀ (g : Glyphs) (level : Severity), g.Visible →
      (e.draw g level).map (·.map (Line.print false)) =
        .ok ((topLines g level e.gutterWidth e.options).map (Line.print false) ++
          rows.map (Row.printed g e.gutterWidth level) ++
          (bottomLines g e.gutterWidth e.options).map (Line.print false)) ∧
      ∀ row ∈ rows, ∀ k cell, row.cells[k]? = some cell →
        String.singleton ((row.printed g e.gutterWidth level).toList.getD
          (e.gutterWidth + 3 + k) ' ') = cell.draw g := by
  obtain ⟨hall, hclosed⟩ := h.drawRows_eq_of_rows hrows
  refine ⟨hall, hclosed, fun k hk => exists_laneOf_eq hk, ?_, ?_⟩
  · intro i a hi hlane
    rw [hall]
    exact h.connector hi hlane
  · intro g level hg
    refine ⟨print_draw hrows g level, fun row hrow k cell hcell => ?_⟩
    rw [hall] at hrow
    exact printed_getD hg (length_number_le_gutterWidth h hrow) hcell

/-- An excerpt with two highlights over several lines, of which the second lies within the first. -/
def nested : Excerpt where
  source := ⟨"ab\ncd\nef\n"⟩
  highlights :=
    [⟨⟨0, 7, none, none, none⟩, ⟨1, 1, 0⟩, ⟨3, 2, 7⟩⟩,
      ⟨⟨1, 4, none, none, none⟩, ⟨1, 2, 1⟩, ⟨2, 2, 4⟩⟩]

/-- In the picture of nested highlights the inner connector opens beside the bar of the outer one,
and the outer one is closed across the lane of the inner. -/
theorem connectors_of_rows_nested :
    nested.Resolved ∧ ∃ rows, nested.rows = .ok rows ∧
      rows.filter (·.cells[1]? = some .opening) =
        [.mark [.bar, .opening, .run] (.connector 2 none) none] ∧
      rows.filter (·.cells[0]? = some .closing) =
        [.mark [.closing, .run, .run] (.connector 1 none) none] ∧
      ∀ row ∈ rows, ∀ k cell, row.cells[k]? = some cell →
        String.singleton ((row.printed .boxDrawing 1 .error).toList.getD (4 + k) ' ') =
          cell.draw .boxDrawing := by
  have hresolved : nested.Resolved := by
    unfold Resolved
    decide
  obtain ⟨rows, hrows⟩ := hresolved.exists_rows_iff.mpr ⟨by decide, by decide⟩
  obtain ⟨-, -, -, hconnectors, hprinted⟩ := connectors_of_rows hresolved hrows
  have hinner := (hconnectors 1 _ rfl (by decide)).opens.1
  have houter := (hconnectors 0 _ rfl (by decide)).closes.1
  exact ⟨hresolved, rows, hrows, hinner, houter,
    (hprinted .boxDrawing .error Glyphs.boxDrawing_visible).2⟩

end Diagnostics.Excerpt
