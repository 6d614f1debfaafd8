import Diagnostics.Proofs.Picture

/-!
# Connectors

The rows of an excerpt show a connector for each highlight over several lines. This file describes
the column of one lane from top to bottom: nothing, the corner under the first line of its
highlight, bars, the corner under the last line, and nothing again, where corners further left may
cross it.
-/

namespace Diagnostics.Excerpt

section Cells

variable {lanes : Lanes} {k lane : ℕ} {isOpen : Bool}

/-- The cell of a lane on a row without a corner. -/
theorem cells_getElem? (h : lanes[k]? = some isOpen) :
    lanes.cells[k]? = some (Lanes.cell isOpen) := by
  have hlength : k < lanes.length := (List.getElem?_eq_some_iff.mp h).1
  have hne : ¬lanes.isEmpty = true := by
    intro hempty
    rw [List.isEmpty_iff.mp hempty] at hlength
    exact absurd hlength (Nat.not_lt_zero k)
  rw [Lanes.cells, if_neg hne, List.getElem?_append_left (by rw [List.length_map]; exact hlength),
    List.getElem?_map, h, Option.map_some]

/-- A corner leaves the lanes further left as they are. -/
theorem cornerCells_getElem?_of_lt (corner : Cell) (hk : k < lane) (h : lanes[k]? = some isOpen) :
    (lanes.cornerCells lane corner)[k]? = some (Lanes.cell isOpen) := by
  have hlength : k < lanes.length := (List.getElem?_eq_some_iff.mp h).1
  have htake : k < ((lanes.take lane).map Lanes.cell).length := by
    rw [List.length_map, List.length_take]
    omega
  rw [Lanes.cornerCells, List.getElem?_append_left htake, List.getElem?_map,
    List.getElem?_take_of_lt hk, h, Option.map_some]

/-- A corner stands in its lane. -/
theorem cornerCells_getElem?_self (corner : Cell) (hlane : lane ≤ lanes.length) :
    (lanes.cornerCells lane corner)[lane]? = some corner := by
  have htake : ((lanes.take lane).map Lanes.cell).length = lane := by
    rw [List.length_map, List.length_take]
    omega
  rw [Lanes.cornerCells, List.getElem?_append_right htake.le, htake, Nat.sub_self]
  rfl

/-- The line from a corner crosses all lanes further right and the column after them. -/
theorem cornerCells_getElem?_of_gt (corner : Cell) (hlane : lane < k) (hk : k ≤ lanes.length) :
    (lanes.cornerCells lane corner)[k]? = some .run := by
  have htake : ((lanes.take lane).map Lanes.cell).length = lane := by
    rw [List.length_map, List.length_take]
    omega
  obtain ⟨right, rfl⟩ : ∃ right, k = lane + (right + 1) := ⟨k - lane - 1, by omega⟩
  rw [Lanes.cornerCells, List.getElem?_append_right (by omega), htake, Nat.add_sub_cancel_left,
    List.getElem?_cons_succ, List.getElem?_replicate, if_pos (by omega)]

end Cells

/-- The cells of a row; a row for lines left out has none. -/
def Row.cells : Row → List Cell
  | .gap => []
  | .source _ cells _ _ | .mark cells _ _ | .continued cells _ _ => cells

/-- Whether a row has a corner in the given lane. -/
def Row.HasCorner (j : ℕ) (row : Row) : Prop :=
  row.cells[j]? = some .opening ∨ row.cells[j]? = some .closing

/-- Whether a row shows the state of a lane: a bar if the lane is open, nothing if it is not, unless
the line from a corner further left crosses it. -/
def Row.Shows (k : ℕ) (isOpen : Bool) (row : Row) : Prop :=
  row.cells[k]? = some (Lanes.cell isOpen) ∨
    row.cells[k]? = some .run ∧ ∃ j < k, row.HasCorner j

/-- A message makes one row with its head, and further rows with the cells below. -/
theorem messageRows_eq (cells below : List Cell) (head : Head) (message : Option String) :
    messageRows cells below head message =
      .mark cells head (message.map fun text => (Text.firstAndRest text).1) ::
        message.elim [] fun text => (Text.firstAndRest text).2.map (.continued below head) := by
  cases message <;> rfl

/-- Below the head of a message, its rows continue it. -/
theorem exists_continued_of_mem_tail {cells below : List Cell} {head : Head}
    {message : Option String} {row : Row} (h : row ∈ (messageRows cells below head message).tail) :
    ∃ part, row = .continued below head part := by
  rw [messageRows_eq, List.tail_cons] at h
  cases message with
  | none => exact absurd h List.not_mem_nil
  | some text =>
    obtain ⟨part, -, rfl⟩ := List.mem_map.mp h
    exact ⟨part, rfl⟩

/-- A row of a message has its head beside the cells, or continues it beside the cells below. -/
theorem mark_or_continued_of_mem {cells below : List Cell} {head : Head} {message : Option String}
    {row : Row} (h : row ∈ messageRows cells below head message) :
    (∃ first, row = .mark cells head first) ∨ ∃ part, row = .continued below head part := by
  rw [messageRows_eq] at h
  rcases List.mem_cons.mp h with rfl | h
  · exact Or.inl ⟨_, rfl⟩
  · right
    have htail : row ∈ (messageRows cells below head message).tail := by
      rw [messageRows_eq]
      exact h
    exact exists_continued_of_mem_tail htail

section OneHighlight

variable {e : Excerpt} {line i m : ℕ} {a b : Highlight}

/-- Under the first of its lines, a highlight has the row of its opening corner, and the rows of its
message beside the open lane. -/
theorem rowsOf_of_start (h : e.highlights[i]? = some a) (hlane : a.multiline = true)
    (hstart : a.start.line = line) (hlines : a.start.line ≤ a.stop.line) :
    e.rowsOf line i a =
      messageRows ((lanesAt e.highlights line i).cornerCells (laneOf e.highlights i) .opening)
        (lanesAt e.highlights line (i + 1)).cells
        (.connector a.start.column a.span.severityHint)
        (Text.nonempty? a.span.inlineMessage) := by
  have hne : a.start.line ≠ a.stop.line := Highlight.multiline_iff.mp hlane
  have hopen : a.openBelow line = true := decide_eq_true ⟨hstart.le, by omega⟩
  rw [rowsOf, rowsBelow_of_start hlane hstart, ← set_lanesAt line h hlane, hopen]
  rfl

/-- Under the last of its lines, a highlight has the row of its closing corner, and the rows of its
message beside the closed lane. -/
theorem rowsOf_of_stop (h : e.highlights[i]? = some a) (hlane : a.multiline = true)
    (hstop : a.stop.line = line) :
    e.rowsOf line i a =
      messageRows ((lanesAt e.highlights line i).cornerCells (laneOf e.highlights i) .closing)
        (lanesAt e.highlights line (i + 1)).cells
        (.connector (max 1 (a.stop.column - 1)) a.span.severityHint)
        (Text.nonempty? a.span.trailingMessage) := by
  have hclosed : a.openBelow line = false := decide_eq_false (by omega)
  rw [rowsOf, rowsBelow_of_stop hlane hstop, ← set_lanesAt line h hlane, hclosed]
  rfl

/-- Under any other line, a highlight over several lines has no rows. -/
theorem rowsOf_of_ne (hlane : a.multiline = true) (hstart : a.start.line ≠ line)
    (hstop : a.stop.line ≠ line) : e.rowsOf line i a = [] := by
  rw [rowsOf, rowsBelow_of_ne hlane hstart hstop]

/-- A highlight on one line has rows under that line only. -/
theorem rowsOf_of_not_multiline (hlane : a.multiline = false) :
    e.rowsOf line i a =
      if a.start.line = line then pointerRows (lanesAt e.highlights line i) (e.align line) a
      else [] := by
  rw [rowsOf, rowsBelow_of_not_multiline hlane]

/-- The rows of a highlight on one line are those of its messages, beside the lanes. -/
theorem exists_messageRows_of_mem_pointerRows {lanes : Lanes} {align : ℕ} {row : Row}
    (h : row ∈ pointerRows lanes align a) :
    ∃ head message, row ∈ messageRows lanes.cells lanes.cells head message := by
  rcases List.mem_append.mp h with h | h
  · exact ⟨_, _, h⟩
  · split at h
    · exact ⟨_, _, h⟩
    · exact absurd h List.not_mem_nil

/-- A row of a highlight under a line belongs to a message. Its head stands beside the lanes before
the highlight or beside the highlight's corner, and the message continues beside the lanes before or
after the highlight. -/
theorem exists_messageRows_of_mem_rowsOf {row : Row} (h : e.highlights[i]? = some a)
    (hlines : a.start.line ≤ a.stop.line) (hrow : row ∈ e.rowsOf line i a) :
    ∃ cells below head message, row ∈ messageRows cells below head message ∧
      (cells = (lanesAt e.highlights line i).cells ∨
        ∃ corner, (corner = .opening ∨ corner = .closing) ∧ a.multiline = true ∧
          cells = (lanesAt e.highlights line i).cornerCells (laneOf e.highlights i) corner) ∧
      (below = (lanesAt e.highlights line i).cells ∨
        below = (lanesAt e.highlights line (i + 1)).cells) := by
  by_cases hlane : a.multiline = true
  · by_cases hstart : a.start.line = line
    · rw [rowsOf_of_start h hlane hstart hlines] at hrow
      exact ⟨_, _, _, _, hrow, Or.inr ⟨.opening, Or.inl rfl, hlane, rfl⟩, Or.inr rfl⟩
    · by_cases hstop : a.stop.line = line
      · rw [rowsOf_of_stop h hlane hstop] at hrow
        exact ⟨_, _, _, _, hrow, Or.inr ⟨.closing, Or.inr rfl, hlane, rfl⟩, Or.inr rfl⟩
      · rw [rowsOf_of_ne hlane hstart hstop] at hrow
        exact absurd hrow List.not_mem_nil
  · rw [rowsOf_of_not_multiline (by simpa using hlane)] at hrow
    split at hrow
    · obtain ⟨head, message, hmem⟩ := exists_messageRows_of_mem_pointerRows hrow
      exact ⟨_, _, _, _, hmem, Or.inl rfl, Or.inl rfl⟩
    · exact absurd hrow List.not_mem_nil

/-- The cells of a row under a line: those of the lanes before or after the rows of its highlight,
or those with the highlight's corner. -/
theorem cells_of_mem_rowsOf {row : Row} (h : e.highlights[i]? = some a)
    (hlines : a.start.line ≤ a.stop.line) (hrow : row ∈ e.rowsOf line i a) :
    row.cells = (lanesAt e.highlights line i).cells ∨
      row.cells = (lanesAt e.highlights line (i + 1)).cells ∨
      ∃ corner, (corner = .opening ∨ corner = .closing) ∧ a.multiline = true ∧
        row.cells =
          (lanesAt e.highlights line i).cornerCells (laneOf e.highlights i) corner := by
  obtain ⟨cells, below, head, message, hmem, hcells, hbelow⟩ :=
    exists_messageRows_of_mem_rowsOf h hlines hrow
  rcases mark_or_continued_of_mem hmem with ⟨first, rfl⟩ | ⟨part, rfl⟩
  · exact hcells.imp id Or.inr
  · exact hbelow.imp id Or.inl

/-- The rows of other highlights under a line show the state of a lane: above its own highlight's
rows that above the line, below them that below the line. -/
theorem shows_of_mem_rowsOf {row : Row} (h : e.highlights[i]? = some a)
    (hlane : a.multiline = true) (hm : e.highlights[m]? = some b) (hne : m ≠ i)
    (hlines : b.start.line ≤ b.stop.line) (hrow : row ∈ e.rowsOf line m b) :
    row.Shows (laneOf e.highlights i) (if i < m then a.openBelow line else a.openAbove line) := by
  have hbefore := lanesAt_laneOf line m h hlane
  have hafter := lanesAt_laneOf line (m + 1) h hlane
  have hsame : i < m + 1 ↔ i < m := by omega
  simp only [hsame] at hafter
  rcases cells_of_mem_rowsOf hm hlines hrow with hcells | hcells | ⟨corner, hcorner, hb, hcells⟩
  · left
    rw [hcells]
    exact cells_getElem? hbefore
  · left
    rw [hcells]
    exact cells_getElem? hafter
  · by_cases him : i < m
    · left
      rw [hcells]
      exact cornerCells_getElem?_of_lt corner ((laneOf_lt_laneOf_iff h hlane).mpr him) hbefore
    · right
      have hleft : laneOf e.highlights m < laneOf e.highlights i :=
        (laneOf_lt_laneOf_iff hm hb).mpr (by omega)
      have hcount := laneOf_lt_laneCount h hlane
      have hself : row.cells[laneOf e.highlights m]? = some corner := by
        rw [hcells]
        exact cornerCells_getElem?_self corner (by rw [length_lanesAt]; omega)
      refine ⟨?_, laneOf e.highlights m, hleft, ?_⟩
      · rw [hcells]
        exact cornerCells_getElem?_of_gt corner hleft (by rw [length_lanesAt]; omega)
      · rcases hcorner with rfl | rfl
        · exact Or.inl hself
        · exact Or.inr hself

end OneHighlight

/-- The row with the corner that opens the lane of highlight number `i`. -/
def openingRow (e : Excerpt) (i : ℕ) (a : Highlight) : Row :=
  .mark ((lanesAt e.highlights a.start.line i).cornerCells (laneOf e.highlights i) .opening)
    (.connector a.start.column a.span.severityHint)
    ((Text.nonempty? a.span.inlineMessage).map fun text => (Text.firstAndRest text).1)

/-- The row with the corner that closes the lane of highlight number `i`. -/
def closingRow (e : Excerpt) (i : ℕ) (a : Highlight) : Row :=
  .mark ((lanesAt e.highlights a.stop.line i).cornerCells (laneOf e.highlights i) .closing)
    (.connector (max 1 (a.stop.column - 1)) a.span.severityHint)
    ((Text.nonempty? a.span.trailingMessage).map fun text => (Text.firstAndRest text).1)

section Column

variable {e : Excerpt} {line i : ℕ} {a : Highlight}

/-- A row with the cells of the lanes behind a highlight shows the state of its lane below the
line. -/
theorem shows_of_cells_eq {row : Row} (hi : e.highlights[i]? = some a) (hlane : a.multiline = true)
    (hcells : row.cells = (lanesAt e.highlights line (i + 1)).cells) :
    row.Shows (laneOf e.highlights i) (a.openBelow line) := by
  have hafter := lanesAt_laneOf line (i + 1) hi hlane
  rw [if_pos (Nat.lt_succ_self i)] at hafter
  left
  rw [hcells]
  exact cells_getElem? hafter

/-- Under the first of its lines, a highlight has its opening row and then rows beside the open
lane. -/
theorem exists_rowsOf_start (hi : e.highlights[i]? = some a) (hlane : a.multiline = true)
    (hlines : a.start.line ≤ a.stop.line) :
    ∃ rest, e.rowsOf a.start.line i a = e.openingRow i a :: rest ∧
      ∀ row ∈ rest, row.Shows (laneOf e.highlights i) (a.openBelow a.start.line) := by
  have hrows := rowsOf_of_start hi hlane rfl hlines
  refine ⟨(e.rowsOf a.start.line i a).tail, by rw [hrows, messageRows_eq]; rfl, fun row hrow => ?_⟩
  rw [hrows] at hrow
  obtain ⟨part, rfl⟩ := exists_continued_of_mem_tail hrow
  exact shows_of_cells_eq hi hlane rfl

/-- Under the last of its lines, a highlight has its closing row and then rows beside the closed
lane. -/
theorem exists_rowsOf_stop (hi : e.highlights[i]? = some a) (hlane : a.multiline = true) :
    ∃ rest, e.rowsOf a.stop.line i a = e.closingRow i a :: rest ∧
      ∀ row ∈ rest, row.Shows (laneOf e.highlights i) (a.openBelow a.stop.line) := by
  have hrows := rowsOf_of_stop hi hlane rfl
  refine ⟨(e.rowsOf a.stop.line i a).tail, by rw [hrows, messageRows_eq]; rfl, fun row hrow => ?_⟩
  rw [hrows] at hrow
  obtain ⟨part, rfl⟩ := exists_continued_of_mem_tail hrow
  exact shows_of_cells_eq hi hlane rfl

/-- Under a line, the rows of a highlight stand between rows that show its lane in its state above
the line and rows that show it in its state below. -/
theorem exists_rowsUnder_eq (h : e.Resolved) (line : ℕ) (hi : e.highlights[i]? = some a)
    (hlane : a.multiline = true) :
    ∃ before after, e.rowsUnder line = before ++ (e.rowsOf line i a ++ after) ∧
      (∀ row ∈ before, row.Shows (laneOf e.highlights i) (a.openAbove line)) ∧
      ∀ row ∈ after, row.Shows (laneOf e.highlights i) (a.openBelow line) := by
  obtain ⟨hlength, ha⟩ := List.getElem?_eq_some_iff.mp hi
  have hsplit : e.highlights.zipIdx =
      (e.highlights.take i).zipIdx ++ (a, i) :: (e.highlights.drop (i + 1)).zipIdx (i + 1) := by
    conv_lhs => rw [← List.take_append_drop i e.highlights, List.zipIdx_append,
      List.drop_eq_getElem_cons hlength, ha, List.zipIdx_cons, List.length_take,
      Nat.min_eq_left hlength.le, Nat.zero_add]
  have hshows : ∀ b m row, e.highlights[m]? = some b → m ≠ i → row ∈ e.rowsOf line m b →
      row.Shows (laneOf e.highlights i) (if i < m then a.openBelow line else a.openAbove line) := by
    intro b m row hm hne hrow
    have hlines := (h.line_bounds (List.mem_of_getElem? hm)).2.1
    exact shows_of_mem_rowsOf hi hlane hm hne hlines hrow
  refine ⟨_, _, by rw [rowsUnder, hsplit, List.flatMap_append, List.flatMap_cons], ?_, ?_⟩
  -- Rows of highlights before number `i` see its lane as it was, those of later ones as it is now.
  · intro row hrow
    obtain ⟨⟨b, m⟩, hmem, hrow⟩ := List.mem_flatMap.mp hrow
    have hm := List.mk_mem_zipIdx_iff_getElem?.mp hmem
    have him : m < i := by
      have := (List.getElem?_eq_some_iff.mp hm).1
      rw [List.length_take] at this
      omega
    rw [List.getElem?_take_of_lt him] at hm
    have hstate := hshows b m row hm (by omega) hrow
    rwa [if_neg (by omega)] at hstate
  · intro row hrow
    obtain ⟨⟨b, m⟩, hmem, hrow⟩ := List.mem_flatMap.mp hrow
    obtain ⟨him, hm⟩ := List.mk_mem_zipIdx_iff_le_and_getElem?_sub.mp hmem
    rw [List.getElem?_drop, show i + 1 + (m - (i + 1)) = m by omega] at hm
    have hstate := hshows b m row hm (by omega) hrow
    rwa [if_pos (by omega)] at hstate

/-- The row of a line of the source shows the state of each lane above the line's rows. -/
theorem sourceRowAt_cells_getElem? (line : ℕ) (hi : e.highlights[i]? = some a)
    (hlane : a.multiline = true) :
    (e.sourceRowAt line).cells[laneOf e.highlights i]? =
      some (Lanes.cell (a.openAbove line)) := by
  refine cells_getElem? ?_
  rw [List.getElem?_map, laneHolders_laneOf hi hlane, Option.map_some]

/-- Nothing is left out above a line that an open lane leads to. -/
theorem gapAbove_eq_nil (h : e.Resolved) (ha : a ∈ e.highlights) (hopen : a.openAbove line = true) :
    e.gapAbove line = [] := by
  have hbounds : a.start.line < line ∧ line ≤ a.stop.line := of_decide_eq_true hopen
  have hshown : line - 1 ∈ e.displayedLines := h.mem_displayedLines ha (by omega) (by omega)
  rw [gapAbove, if_pos (Or.inr hshown)]

/-- Lines are left out only above a line that no open lane leads to. -/
theorem openAbove_of_mem_gapAbove {row : Row} (h : e.Resolved) (ha : a ∈ e.highlights)
    (hrow : row ∈ e.gapAbove line) : row = .gap ∧ a.openAbove line = false := by
  refine ⟨eq_gap_of_mem_gapAbove hrow, ?_⟩
  by_contra hopen
  rw [gapAbove_eq_nil h ha (by simpa using hopen)] at hrow
  exact absurd hrow List.not_mem_nil

/-- Whether a row shows nothing of a lane but a line that crosses it. -/
def Row.Clear (k : ℕ) (row : Row) : Prop :=
  row = .gap ∨ row.Shows k false

/-- The rows of a highlight stand among all rows of a line between rows that show its lane in its
state above the line and rows that show it in its state below. -/
theorem exists_lineRows_eq (h : e.Resolved) (line : ℕ) (hi : e.highlights[i]? = some a)
    (hlane : a.multiline = true) :
    ∃ before after, e.lineRows line = before ++ (e.rowsOf line i a ++ after) ∧
      (∀ row ∈ before, row = .gap ∧ a.openAbove line = false ∨
        row.Shows (laneOf e.highlights i) (a.openAbove line)) ∧
      ∀ row ∈ after, row.Shows (laneOf e.highlights i) (a.openBelow line) := by
  obtain ⟨before, after, hrows, hbefore, hafter⟩ := exists_rowsUnder_eq h line hi hlane
  refine ⟨e.gapAbove line ++ e.sourceRowAt line :: before, after, ?_, ?_, hafter⟩
  · rw [lineRows, hrows, List.append_assoc, List.cons_append]
  · intro row hrow
    rcases List.mem_append.mp hrow with hrow | hrow
    · exact Or.inl (openAbove_of_mem_gapAbove h (List.mem_of_getElem? hi) hrow)
    · right
      rcases List.mem_cons.mp hrow with rfl | hrow
      · exact Or.inl (sourceRowAt_cells_getElem? line hi hlane)
      · exact hbefore row hrow

/-- The rows of a line above the first or below the last of a highlight's are clear of its lane. -/
theorem clear_of_mem_lineRows {row : Row} (h : e.Resolved) (hi : e.highlights[i]? = some a)
    (hlane : a.multiline = true) (hline : line < a.start.line ∨ a.stop.line < line)
    (hrow : row ∈ e.lineRows line) : row.Clear (laneOf e.highlights i) := by
  have hlines := (h.line_bounds (List.mem_of_getElem? hi)).2.1
  have habove : a.openAbove line = false := decide_eq_false (by omega)
  have hbelow : a.openBelow line = false := decide_eq_false (by omega)
  obtain ⟨before, after, hrows, hbefore, hafter⟩ := exists_lineRows_eq h line hi hlane
  rw [hrows, rowsOf_of_ne hlane (by omega) (by omega), List.nil_append] at hrow
  rcases List.mem_append.mp hrow with hrow | hrow
  · rcases hbefore row hrow with ⟨hgap, -⟩ | hshows
    · exact Or.inl hgap
    · exact Or.inr (habove ▸ hshows)
  · exact Or.inr (hbelow ▸ hafter row hrow)

/-- The rows of a line strictly between the first and the last of a highlight's show its lane
open. -/
theorem shows_of_mem_lineRows {row : Row} (h : e.Resolved) (hi : e.highlights[i]? = some a)
    (hlane : a.multiline = true) (hstart : a.start.line < line) (hstop : line < a.stop.line)
    (hrow : row ∈ e.lineRows line) : row.Shows (laneOf e.highlights i) true := by
  have habove : a.openAbove line = true := decide_eq_true (by omega)
  have hbelow : a.openBelow line = true := decide_eq_true (by omega)
  obtain ⟨before, after, hrows, hbefore, hafter⟩ := exists_lineRows_eq h line hi hlane
  rw [hrows, rowsOf_of_ne hlane (by omega) (by omega), List.nil_append] at hrow
  rcases List.mem_append.mp hrow with hrow | hrow
  · rcases hbefore row hrow with ⟨-, hclosed⟩ | hshows
    · rw [habove] at hclosed
      cases hclosed
    · exact habove ▸ hshows
  · exact hbelow ▸ hafter row hrow

/-- The displayed lines are those above a highlight, its first line, those inside it, its last line
and those below it. -/
theorem exists_displayedLines_eq (h : e.Resolved) (ha : a ∈ e.highlights)
    (hlane : a.multiline = true) :
    ∃ above inside below,
      e.displayedLines = above ++ a.start.line :: (inside ++ a.stop.line :: below) ∧
      (∀ n ∈ above, n < a.start.line) ∧ (∀ n ∈ inside, a.start.line < n ∧ n < a.stop.line) ∧
      ∀ n ∈ below, a.stop.line < n := by
  have hne : a.start.line ≠ a.stop.line := Highlight.multiline_iff.mp hlane
  have hlines := (h.line_bounds ha).2.1
  obtain ⟨above, rest, hfirst⟩ := List.append_of_mem (h.mem_displayedLines ha le_rfl hlines)
  have hsorted := e.pairwise_displayedLines
  rw [hfirst, List.pairwise_append, List.pairwise_cons] at hsorted
  obtain ⟨-, ⟨hrest, hlater⟩, habove⟩ := hsorted
  have hstop : a.stop.line ∈ rest := by
    have hshown := h.mem_displayedLines ha hlines le_rfl
    rw [hfirst, List.mem_append, List.mem_cons] at hshown
    rcases hshown with hmem | heq | hmem
    · have := habove a.stop.line hmem a.start.line List.mem_cons_self
      omega
    · exact absurd heq.symm hne
    · exact hmem
  obtain ⟨inside, below, hlast⟩ := List.append_of_mem hstop
  rw [hlast, List.pairwise_append, List.pairwise_cons] at hlater
  refine ⟨above, inside, below, by rw [hfirst, hlast], ?_, ?_, ?_⟩
  · intro n hn
    exact habove n hn a.start.line List.mem_cons_self
  · intro n hn
    refine ⟨hrest n (by rw [hlast]; exact List.mem_append_left _ hn), ?_⟩
    exact hlater.2.2 n hn a.stop.line List.mem_cons_self
  · exact hlater.2.1.1

/-- The column of a lane from top to bottom: clear rows, the opening row of its highlight, rows that
show it open, the closing row, and clear rows again. -/
theorem exists_column (h : e.Resolved) (hi : e.highlights[i]? = some a)
    (hlane : a.multiline = true) :
    ∃ above between below,
      e.displayedLines.flatMap e.lineRows =
        above ++ e.openingRow i a :: (between ++ e.closingRow i a :: below) ∧
      (∀ row ∈ above, row.Clear (laneOf e.highlights i)) ∧
      (∀ row ∈ between, row.Shows (laneOf e.highlights i) true) ∧
      ∀ row ∈ below, row.Clear (laneOf e.highlights i) := by
  have ha := List.mem_of_getElem? hi
  have hne : a.start.line ≠ a.stop.line := Highlight.multiline_iff.mp hlane
  have hlines := (h.line_bounds ha).2.1
  obtain ⟨above, inside, below, hdisplayed, habove, hinside, hbelow⟩ :=
    exists_displayedLines_eq h ha hlane
  obtain ⟨beforeFirst, afterFirst, hfirst, hbeforeFirst, hafterFirst⟩ :=
    exists_lineRows_eq h a.start.line hi hlane
  obtain ⟨beforeLast, afterLast, hlast, hbeforeLast, hafterLast⟩ :=
    exists_lineRows_eq h a.stop.line hi hlane
  obtain ⟨opened, hopening, hopened⟩ := exists_rowsOf_start hi hlane hlines
  obtain ⟨closed, hclosing, hclosed⟩ := exists_rowsOf_stop hi hlane
  have hclosedAbove : a.openAbove a.start.line = false := decide_eq_false (by omega)
  have hopenBelow : a.openBelow a.start.line = true := decide_eq_true (by omega)
  have hopenAbove : a.openAbove a.stop.line = true := decide_eq_true (by omega)
  have hclosedBelow : a.openBelow a.stop.line = false := decide_eq_false (by omega)
  rw [hclosedAbove] at hbeforeFirst
  rw [hopenBelow] at hafterFirst hopened
  rw [hopenAbove] at hbeforeLast
  rw [hclosedBelow] at hafterLast hclosed
  refine ⟨above.flatMap e.lineRows ++ beforeFirst,
    opened ++ afterFirst ++ inside.flatMap e.lineRows ++ beforeLast,
    closed ++ afterLast ++ below.flatMap e.lineRows, ?_, ?_, ?_, ?_⟩
  · rw [hdisplayed, List.flatMap_append, List.flatMap_cons, List.flatMap_append, List.flatMap_cons,
      hfirst, hlast, hopening, hclosing]
    simp only [List.append_assoc, List.cons_append]
  · intro row hrow
    rcases List.mem_append.mp hrow with hrow | hrow
    · obtain ⟨n, hn, hrow⟩ := List.mem_flatMap.mp hrow
      exact clear_of_mem_lineRows h hi hlane (Or.inl (habove n hn)) hrow
    · exact (hbeforeFirst row hrow).imp And.left id
  · intro row hrow
    simp only [List.mem_append, List.mem_flatMap] at hrow
    rcases hrow with ((hrow | hrow) | ⟨n, hn, hrow⟩) | hrow
    · exact hopened row hrow
    · exact hafterFirst row hrow
    · exact shows_of_mem_lineRows h hi hlane (hinside n hn).1 (hinside n hn).2 hrow
    · rcases hbeforeLast row hrow with ⟨-, hfalse⟩ | hshows
      · cases hfalse
      · exact hshows
  · intro row hrow
    simp only [List.mem_append, List.mem_flatMap] at hrow
    rcases hrow with (hrow | hrow) | ⟨n, hn, hrow⟩
    · exact Or.inr (hclosed row hrow)
    · exact Or.inr (hafterLast row hrow)
    · exact clear_of_mem_lineRows h hi hlane (Or.inr (hbelow n hn)) hrow

end Column

end Diagnostics.Excerpt
