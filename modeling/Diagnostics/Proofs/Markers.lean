import Diagnostics.Proofs.DrawnConnectors
import Diagnostics.Proofs.Measures

/-!
# Markers under ranges

Right of the gutter and the lanes, each character of the source has a place of its own in the row of
its line. The marker of a highlight on one line stands under exactly the characters of its range,
and those of a connector stand under the first and the last character. A line feed has the place
after the last character of its line.
-/

namespace Diagnostics

namespace Source

/-- A character that is no line feed stands in the text of its line, at its column. -/
theorem textAt_getElem? {source : Source} {m : ℕ} (hm : m < source.chars.length)
    (hfeed : source.chars[m] ≠ '\n') :
    (source.textAt (Position.after (source.chars.take m)).line).toList[
      (Position.after (source.chars.take m)).column - 1]? = some source.chars[m] := by
  have hline := LineAt.of_cut (source.chars.take m) (source.chars.drop m)
  rw [List.take_append_drop] at hline
  have hcolumn : (Position.after (source.chars.take m)).column - 1 =
      ((source.chars.take m).rtakeWhile (· ≠ '\n')).length := by
    simp only [Position.after]
    omega
  have hback : (source.chars.drop m).takeWhile (· ≠ '\n') =
      source.chars[m] :: (source.chars.drop (m + 1)).takeWhile (· ≠ '\n') := by
    rw [List.drop_eq_getElem_cons hm, List.takeWhile_cons_of_pos (by simpa using hfeed)]
  rw [textAt, hline.texts_getElem?, Option.getD_some, String.toList_ofList, hcolumn,
    List.getElem?_append_right le_rfl, Nat.sub_self, hback]
  rfl

end Source

namespace Excerpt

/-- The columns before the text of the source: the gutter, and the lanes with the column after them
if there are any. -/
def textColumn (e : Excerpt) : ℕ :=
  e.gutterWidth + 3 + if laneCount e.highlights = 0 then 0 else laneCount e.highlights + 1

/-- The place of character number `m` of the source in the row of its line. The rows under the line
have the same places. -/
def place (e : Excerpt) (m : ℕ) : ℕ :=
  e.textColumn + (Position.after (e.source.chars.take m)).column - 1

section Fronts

variable {e : Excerpt} {g : Glyphs} {line i : ℕ} {a : Highlight}

/-- Without a corner, there is a cell for each lane and one more, unless there is no lane. -/
theorem length_cells (lanes : Lanes) :
    lanes.cells.length = if lanes.length = 0 then 0 else lanes.length + 1 := by
  cases lanes with
  | nil => rfl
  | cons isOpen lanes => simp [Lanes.cells]

/-- With a corner, there is a cell for each lane and one more. -/
theorem length_cornerCells {lanes : Lanes} {lane : ℕ} (corner : Cell)
    (hlane : lane < lanes.length) : (lanes.cornerCells lane corner).length = lanes.length + 1 := by
  rw [Lanes.cornerCells, List.length_append, List.length_map, List.length_take, List.length_cons,
    List.length_replicate]
  omega

/-- The front of a row of the source ends where the text of the source begins. -/
theorem length_front_sourceRowAt (hg : g.Single) (hline : line ∈ e.displayedLines) :
    ((e.sourceRowAt line).front g e.gutterWidth).length = e.textColumn := by
  have hnumber : (e.sourceRowAt line).number.length ≤ e.gutterWidth :=
    length_repr_le_gutterWidth hline
  rw [length_front hg hnumber, textColumn, sourceRowAt, Row.cells, length_cells, List.length_map,
    length_laneHolders]

/-- Lanes without a corner end where the text of the source begins. -/
theorem length_cells_lanesAt (e : Excerpt) (line m : ℕ) :
    e.gutterWidth + 3 + (lanesAt e.highlights line m).cells.length = e.textColumn := by
  rw [length_cells, length_lanesAt, textColumn]

/-- So do the cells beside a corner. -/
theorem length_cornerCells_lanesAt (hi : e.highlights[i]? = some a) (hlane : a.multiline = true)
    (line : ℕ) (corner : Cell) :
    e.gutterWidth + 3 +
      ((lanesAt e.highlights line i).cornerCells (laneOf e.highlights i) corner).length =
        e.textColumn := by
  have hcount := laneOf_lt_laneCount hi hlane
  rw [length_cornerCells corner (laneOf_lt_length_lanesAt line i hi hlane), length_lanesAt,
    textColumn, if_neg (by omega)]

/-- The front of the row of a head ends where its cells do. -/
theorem length_front_mark (hg : g.Single) {cells : List Cell}
    (hcells : e.gutterWidth + 3 + cells.length = e.textColumn) (head : Head)
    (message : Option String) :
    ((Row.mark cells head message).front g e.gutterWidth).toList.length = e.textColumn := by
  have hnumber : (Row.mark cells head message).number.length ≤ e.gutterWidth := Nat.zero_le _
  rw [String.length_toList, length_front hg hnumber, Row.cells, hcells]

end Fronts

section Heads

variable {g : Glyphs} {level : Severity} {marker horizontal : Char} {width : ℕ}

/-- What is printed of a message after its head. -/
theorem toList_drawMessage (message : Option String) :
    (Line.text (drawMessage message)).toList =
      message.elim [] fun text => ' ' :: text.toList := by
  cases message with
  | none => rfl
  | some text =>
    rw [drawMessage, text_plain, String.toList_append]
    rfl

/-- The row of a marker is its front, its head and its message. -/
theorem toList_printed_mark (cells : List Cell) (head : Head) (message : Option String) :
    ((Row.mark cells head message).printed g width level).toList =
      ((Row.mark cells head message).front g width).toList ++
        ((Line.text (head.draw g level)).toList ++
          message.elim [] fun text => ' ' :: text.toList) := by
  rw [Row.printed, Line.print_false, Row.draw, List.append_assoc, text_append, text_plain,
    text_append]
  simp only [String.toList_append, toList_drawMessage, Row.front, Row.number, Row.cells]

/-- The head of a highlight on one line: spaces, its marker and spaces up to the message. -/
theorem toList_pointer (hmarker : g.marker = String.singleton marker) (column n fill : ℕ)
    (hint : Option Severity) :
    (Line.text ((Head.pointer column n fill hint).draw g level)).toList =
      List.replicate (column - 1) ' ' ++ (List.replicate n marker ++ List.replicate fill ' ') := by
  simp only [Head.draw, Line.text, Severity.paint, List.map_cons, List.map_nil, String.join_cons,
    String.join_nil, String.toList_append, Text.toList_spaces, hmarker,
    Text.toList_replicate_singleton]
  simp

/-- The head of a connector: a line and the marker at its end. -/
theorem toList_connector (hmarker : g.marker = String.singleton marker)
    (hhorizontal : g.horizontal = String.singleton horizontal) (column : ℕ)
    (hint : Option Severity) :
    (Line.text ((Head.connector column hint).draw g level)).toList =
      List.replicate (column - 1) horizontal ++ [marker] := by
  simp only [Head.draw, drawLead, Line.text, Severity.paint, List.map_cons, List.map_nil,
    String.join_cons, String.join_nil, String.toList_append, hmarker, hhorizontal,
    Text.toList_replicate_singleton, String.toList_singleton]
  simp

end Heads

/-- The message beside the marker of a highlight on one line. -/
def markerMessage (a : Highlight) : Option String :=
  Text.nonempty? a.span.inlineMessage <|> Text.nonempty? a.span.trailingMessage

/-- The columns between a marker and its message that align the messages of a line. -/
def markerFill (e : Excerpt) (a : Highlight) : ℕ :=
  if (markerMessage a).isSome then e.align a.start.line - (a.start.column - 1 + a.width) else 0

/-- The row with the marker of highlight number `i`, if that is on one line. -/
def pointerRow (e : Excerpt) (i : ℕ) (a : Highlight) : Row :=
  .mark (lanesAt e.highlights a.start.line i).cells
    (.pointer a.start.column a.width (e.markerFill a) a.span.severityHint)
    ((markerMessage a).map fun text => (Text.firstAndRest text).1)

section Places

variable {e : Excerpt} {g : Glyphs} {level : Severity} {line i j k m : ℕ} {a : Highlight}
variable {row : Row} {marker horizontal : Char}

/-- The first place of a row is right of the gutter and the lanes. -/
theorem place_eq (e : Excerpt) (m : ℕ) :
    e.place m = e.textColumn + ((Position.after (e.source.chars.take m)).column - 1) := by
  have hcolumn := Position.one_le_column_after (e.source.chars.take m)
  rw [place]
  omega

/-- On one line, the characters of a range have places side by side. -/
theorem place_eq_of_range (m : ℕ) (h : a.Over e.source.chars j k) (hlane : a.multiline = false)
    (hjm : j ≤ m) (hmk : m < k) : e.place m = e.place j + (m - j) := by
  have hcolumn := h.column_eq hlane hjm hmk
  have hone := Position.one_le_column_after (e.source.chars.take j)
  rw [h.start_eq] at hcolumn
  rw [place_eq, place_eq, hcolumn]
  omega

/-- The places under a marker are those of the characters of its range, or the one place of an empty
range. -/
theorem mem_marker_iff (h : a.Over e.source.chars j k) (hlane : a.multiline = false) (n : ℕ) :
    (e.place j ≤ n ∧ n < e.place j + max 1 (k - j)) ↔
      n = e.place j ∨ ∃ m, j ≤ m ∧ m < k ∧ n = e.place m := by
  constructor
  · rintro ⟨hle, hlt⟩
    by_cases hfirst : n = e.place j
    · exact Or.inl hfirst
    · right
      have hplace := place_eq_of_range (j + (n - e.place j)) h hlane (by omega) (by omega)
      exact ⟨j + (n - e.place j), by omega, by omega, by omega⟩
  · rintro (rfl | ⟨m, hjm, hmk, rfl⟩)
    · omega
    · have hplace := place_eq_of_range m h hlane hjm hmk
      omega

/-- The rows of a highlight under a displayed line are rows of the excerpt. -/
theorem mem_rows_of_mem_rowsUnder (hline : line ∈ e.displayedLines)
    (hrow : row ∈ e.rowsUnder line) : row ∈ e.displayedLines.flatMap e.lineRows :=
  List.mem_flatMap.mpr ⟨line, hline, List.mem_append_right _ (List.mem_cons_of_mem _ hrow)⟩

/-- The rows of highlight number `i` are among those under the line. -/
theorem mem_rowsUnder_of_mem_rowsOf (hi : e.highlights[i]? = some a)
    (hrow : row ∈ e.rowsOf line i a) : row ∈ e.rowsUnder line :=
  List.mem_flatMap.mpr ⟨(a, i), List.mk_mem_zipIdx_iff_getElem?.mpr hi, hrow⟩

/-- Before the blanks at its end are taken away, the row of a line of the source has each column of
the line in its place. -/
theorem exists_untrimmed (hg : g.Single) (level : Severity) (hline : line ∈ e.displayedLines) :
    ∃ full, (e.sourceRowAt line).printed g e.gutterWidth level = Text.trimEnd full ∧
      ∀ n < (e.source.textAt line).length,
        full.toList[e.textColumn + n]? = (e.source.textAt line).toList[n]? := by
  refine ⟨(e.sourceRowAt line).front g e.gutterWidth ++ (e.sourceRowAt line).body g level, ?_, ?_⟩
  · rw [Row.printed, Line.print_false, sourceRowAt, Row.draw, text_plain]
    rfl
  · intro n hn
    have hlength := length_front_sourceRowAt hg hline
    rw [← String.length_toList] at hlength hn
    have hbody : ((e.sourceRowAt line).body g level).toList[n]? =
        (e.source.textAt line).toList[n]? := by
      rw [sourceRowAt, Row.body]
      split
      · rw [String.toList_append, List.getElem?_append_left hn]
      · rfl
    rw [String.toList_append, List.getElem?_append_right (by omega), hlength,
      Nat.add_sub_cancel_left, hbody]

/-- The rows of a highlight on one line begin with that of its marker. -/
theorem exists_rowsOf_pointer (e : Excerpt) (i : ℕ) (hlane : a.multiline = false) :
    ∃ rest, e.rowsOf a.start.line i a = e.pointerRow i a :: rest := by
  rw [rowsOf_of_not_multiline hlane, if_pos rfl, pointerRows]
  simp only [messageRows_eq, List.cons_append]
  exact ⟨_, rfl⟩

/-- In the row of a marker, right of the gutter and the lanes, there are spaces up to the first
character of the range, a marker for each character, and the message. -/
theorem drop_printed_pointerRow (hg : g.Single) (level : Severity)
    (hmarker : g.marker = String.singleton marker) (h : a.Over e.source.chars j k)
    (hlane : a.multiline = false) :
    ((e.pointerRow i a).printed g e.gutterWidth level).toList.drop e.textColumn =
      List.replicate (e.place j - e.textColumn) ' ' ++
        (List.replicate (max 1 (k - j)) marker ++
          (markerMessage a).elim [] fun message =>
            List.replicate (e.markerFill a) ' ' ++
              ' ' :: (Text.firstAndRest message).1.toList) := by
  have hcolumn : e.place j - e.textColumn = a.start.column - 1 := by
    rw [place_eq, h.start_eq, Nat.add_sub_cancel_left]
  have hlength := length_front_mark hg (length_cells_lanesAt e a.start.line i)
    (.pointer a.start.column a.width (e.markerFill a) a.span.severityHint)
    ((markerMessage a).map fun text => (Text.firstAndRest text).1)
  rw [pointerRow, toList_printed_mark, List.drop_left' hlength, toList_pointer hmarker, hcolumn,
    h.width_eq hlane, List.append_assoc, List.append_assoc]
  cases hmessage : markerMessage a with
  | none =>
    rw [markerFill, hmessage]
    rfl
  | some message => rfl

/-- In the row of a corner, right of the gutter and the lanes, a line runs up to the marker, which
stands under a character if it is drawn in the character's column. -/
theorem drop_printed_corner (hg : g.Single) (hmarker : g.marker = String.singleton marker)
    (hhorizontal : g.horizontal = String.singleton horizontal) (hi : e.highlights[i]? = some a)
    (hlane : a.multiline = true) {column : ℕ} (corner : Cell) (hint : Option Severity)
    (message : Option String)
    (hcolumn : (Position.after (e.source.chars.take m)).column = column) :
    ((Row.mark ((lanesAt e.highlights line i).cornerCells (laneOf e.highlights i) corner)
      (.connector column hint) message).printed g e.gutterWidth level).toList.drop e.textColumn =
        List.replicate (e.place m - e.textColumn) horizontal ++
          marker :: message.elim [] fun text => ' ' :: text.toList := by
  have hlength := length_front_mark hg (length_cornerCells_lanesAt hi hlane line corner)
    (.connector column hint) message
  have hplace : e.place m - e.textColumn = column - 1 := by
    rw [place_eq, hcolumn, Nat.add_sub_cancel_left]
  rw [toList_printed_mark, List.drop_left' hlength, toList_connector hmarker hhorizontal, hplace,
    List.append_assoc, List.singleton_append]

/-- The marker of an opening row stands under the first character of the range. -/
theorem drop_printed_openingRow (hg : g.Single) (level : Severity)
    (hmarker : g.marker = String.singleton marker)
    (hhorizontal : g.horizontal = String.singleton horizontal) (h : a.Over e.source.chars j k)
    (hi : e.highlights[i]? = some a) (hlane : a.multiline = true) :
    ∃ behind, ((e.openingRow i a).printed g e.gutterWidth level).toList.drop e.textColumn =
      List.replicate (e.place j - e.textColumn) horizontal ++ marker :: behind := by
  have hcolumn : (Position.after (e.source.chars.take j)).column = a.start.column := by
    rw [h.start_eq]
  exact ⟨_, drop_printed_corner hg hmarker hhorizontal hi hlane .opening _ _ hcolumn⟩

/-- The marker of a closing row stands under the last character of the range. -/
theorem drop_printed_closingRow (hg : g.Single) (level : Severity)
    (hmarker : g.marker = String.singleton marker)
    (hhorizontal : g.horizontal = String.singleton horizontal) (h : a.Over e.source.chars j k)
    (hi : e.highlights[i]? = some a) (hlane : a.multiline = true) :
    ∃ behind, ((e.closingRow i a).printed g e.gutterWidth level).toList.drop e.textColumn =
      List.replicate (e.place (k - 1) - e.textColumn) horizontal ++ marker :: behind := by
  obtain ⟨-, -, hstop⟩ := h.last_of_multiline hlane
  have hone := Position.one_le_column_after (e.source.chars.take (k - 1))
  have hcolumn : (Position.after (e.source.chars.take (k - 1))).column =
      max 1 (a.stop.column - 1) := by omega
  exact ⟨_, drop_printed_corner hg hmarker hhorizontal hi hlane .closing _ _ hcolumn⟩

/-- What stands behind a run of equal characters is in the place where the run ends. -/
theorem getElem?_place_of_drop {cs behind : List Char} {c d : Char}
    (h : cs.drop e.textColumn = List.replicate (e.place m - e.textColumn) c ++ d :: behind) :
    cs[e.place m]? = some d := by
  have hplace : e.place m = e.textColumn + (e.place m - e.textColumn) := by
    rw [place_eq]
    omega
  rw [hplace, ← List.getElem?_drop, h, List.getElem?_append_right (by rw [List.length_replicate]),
    List.length_replicate, Nat.sub_self]
  rfl

end Places

/-- Under the highlight number `i`, which lies over the characters from number `j` up to number `k`
of the source, the markers of its rows stand under the range. -/
structure Marked (e : Excerpt) (rows : List Row) (g : Glyphs) (level : Severity)
    (marker horizontal : Char) (i : ℕ) (a : Highlight) (j k : ℕ) : Prop where
  /-- The row of the marker of a highlight on one line is the first of its rows under that line. -/
  pointer_mem : a.multiline = false → e.pointerRow i a ∈ rows ∧
    ∃ rest, e.rowsOf a.start.line i a = e.pointerRow i a :: rest
  /-- That row has spaces, then the run of the marker, then only alignment and the message. -/
  pointer : a.multiline = false →
    ((e.pointerRow i a).printed g e.gutterWidth level).toList.drop e.textColumn =
      List.replicate (e.place j - e.textColumn) ' ' ++
        (List.replicate (max 1 (k - j)) marker ++
          (markerMessage a).elim [] fun message =>
            List.replicate (e.markerFill a) ' ' ++ ' ' :: (Text.firstAndRest message).1.toList)
  /-- The run covers the places of the characters of the range, and of an empty range its one
  place. -/
  pointer_places : a.multiline = false → ∀ n,
    (e.place j ≤ n ∧ n < e.place j + max 1 (k - j)) ↔
      n = e.place j ∨ ∃ m, j ≤ m ∧ m < k ∧ n = e.place m
  /-- The line of an opening corner ends in a marker under the first character. -/
  opening : a.multiline = true → e.openingRow i a ∈ rows ∧
    ((e.openingRow i a).printed g e.gutterWidth level).toList[e.place j]? = some marker ∧
    ∃ behind, ((e.openingRow i a).printed g e.gutterWidth level).toList.drop e.textColumn =
      List.replicate (e.place j - e.textColumn) horizontal ++ marker :: behind
  /-- The line of a closing corner ends in a marker under the last character. -/
  closing : a.multiline = true → j < k ∧ e.closingRow i a ∈ rows ∧
    ((e.closingRow i a).printed g e.gutterWidth level).toList[e.place (k - 1)]? = some marker ∧
    ∃ behind, ((e.closingRow i a).printed g e.gutterWidth level).toList.drop e.textColumn =
      List.replicate (e.place (k - 1) - e.textColumn) horizontal ++ marker :: behind

/-- The markers of a highlight stand under the range that it lies over. -/
theorem Resolved.marked {e : Excerpt} (h : e.Resolved) {g : Glyphs} (hg : g.Single)
    (level : Severity) {marker horizontal : Char} (hmarker : g.marker = String.singleton marker)
    (hhorizontal : g.horizontal = String.singleton horizontal) {i j k : ℕ} {a : Highlight}
    (hi : e.highlights[i]? = some a) (hover : a.Over e.source.chars j k) :
    e.Marked (e.displayedLines.flatMap e.lineRows) g level marker horizontal i a j k := by
  have ha := List.mem_of_getElem? hi
  have hlines := (h.line_bounds ha).2.1
  have hfirst := h.mem_displayedLines ha le_rfl hlines
  have hlast := h.mem_displayedLines ha hlines le_rfl
  constructor
  · intro hlane
    obtain ⟨rest, hrest⟩ := exists_rowsOf_pointer e i hlane
    have hmem : e.pointerRow i a ∈ e.rowsOf a.start.line i a := by
      rw [hrest]
      exact List.mem_cons_self
    exact ⟨mem_rows_of_mem_rowsUnder hfirst (mem_rowsUnder_of_mem_rowsOf hi hmem), rest, hrest⟩
  · intro hlane
    exact drop_printed_pointerRow hg level hmarker hover hlane
  · intro hlane n
    exact mem_marker_iff hover hlane n
  · intro hlane
    obtain ⟨behind, hdrop⟩ :=
      drop_printed_openingRow hg level hmarker hhorizontal hover hi hlane
    have hmem := openingRow_mem_rowsUnder h hi hlane
    exact ⟨mem_rows_of_mem_rowsUnder hfirst hmem, getElem?_place_of_drop hdrop, behind, hdrop⟩
  · intro hlane
    obtain ⟨behind, hdrop⟩ :=
      drop_printed_closingRow hg level hmarker hhorizontal hover hi hlane
    have hmem := closingRow_mem_rowsUnder h hi hlane
    exact ⟨(hover.last_of_multiline hlane).1, mem_rows_of_mem_rowsUnder hlast hmem,
      getElem?_place_of_drop hdrop, behind, hdrop⟩

/-- The row of a displayed line shows each character of the line in its place, before the blanks at
the end of the row are taken away. -/
theorem Resolved.exists_untrimmed_row {e : Excerpt} (h : e.Resolved) {g : Glyphs} (hg : g.Single)
    (level : Severity) {line : ℕ} (hline : line ∈ e.displayedLines) :
    ∃ text full, e.source.lineText line = .ok text ∧
      (e.sourceRowAt line).printed g e.gutterWidth level = Text.trimEnd full ∧
      (∀ c, 1 ≤ c → c ≤ text.length →
        full.toList[e.textColumn + c - 1]? = text.toList[c - 1]?) ∧
      ∀ m (hm : m < e.source.chars.length), e.source.chars[m] ≠ '\n' →
        (Position.after (e.source.chars.take m)).line = line →
        full.toList[e.place m]? = some e.source.chars[m] := by
  obtain ⟨hone, hcount⟩ := h.displayedLines_bounds hline
  obtain ⟨full, hfull, hcolumns⟩ := exists_untrimmed hg level hline
  refine ⟨e.source.textAt line, full, Source.lineText_eq_textAt hone hcount, hfull, ?_, ?_⟩
  · intro c hc hlength
    rw [← hcolumns (c - 1) (by omega)]
    congr 1
    omega
  · rintro m hm hfeed rfl
    have hchar := Source.textAt_getElem? hm hfeed
    have hlength := (List.getElem?_eq_some_iff.mp hchar).1
    rw [String.length_toList] at hlength
    rw [place_eq, hcolumns _ hlength, hchar]

/-- Markers stand under exactly the highlighted characters. In an excerpt drawn without colour, with
marks of one character each, every character of the source has one place in the row of its line,
and every highlight lies over a range of characters such that the markers in its rows stand in the
places of the range. -/
theorem markers_under_ranges {e : Excerpt} {rows : List Row} (h : e.Resolved)
    (hrows : e.rows = .ok rows) {g : Glyphs} (hg : g.Single) (level : Severity) :
    (e.draw g level).map (·.map (Line.print false)) =
      .ok ((topLines g level e.gutterWidth e.options).map (Line.print false) ++
        rows.map (Row.printed g e.gutterWidth level) ++
        (bottomLines g e.gutterWidth e.options).map (Line.print false)) ∧
    (∀ line ∈ e.displayedLines, e.sourceRowAt line ∈ rows ∧ ∃ text full,
      e.source.lineText line = .ok text ∧
      (e.sourceRowAt line).printed g e.gutterWidth level = Text.trimEnd full ∧
      (∀ c, 1 ≤ c → c ≤ text.length →
        full.toList[e.textColumn + c - 1]? = text.toList[c - 1]?) ∧
      ∀ m (hm : m < e.source.chars.length), e.source.chars[m] ≠ '\n' →
        (Position.after (e.source.chars.take m)).line = line →
        full.toList[e.place m]? = some e.source.chars[m]) ∧
    ∃ marker horizontal, g.marker = String.singleton marker ∧
      g.horizontal = String.singleton horizontal ∧
      ∀ i a, e.highlights[i]? = some a → ∃ j k, j ≤ k ∧ k ≤ e.source.chars.length ∧
        a.span.start = (octetCount (e.source.chars.take j) : ℤ) ∧
        a.span.stop = (octetCount (e.source.chars.take k) : ℤ) ∧
        e.Marked rows g level marker horizontal i a j k := by
  obtain ⟨hall, -⟩ := h.drawRows_eq_of_rows hrows
  refine ⟨print_draw hrows g level, ?_, ?_⟩
  · intro line hline
    refine ⟨?_, h.exists_untrimmed_row hg level hline⟩
    rw [hall]
    exact List.mem_flatMap.mpr ⟨line, hline, List.mem_append_right _ List.mem_cons_self⟩
  · obtain ⟨marker, hmarker⟩ := Text.exists_singleton_eq hg.marker
    obtain ⟨horizontal, hhorizontal⟩ := Text.exists_singleton_eq hg.horizontal
    refine ⟨marker, horizontal, hmarker, hhorizontal, fun i a hi => ?_⟩
    obtain ⟨j, k, hover⟩ := h.exists_over (List.mem_of_getElem? hi)
    refine ⟨j, k, hover.ordered, hover.bounded, hover.start_offset, hover.stop_offset, ?_⟩
    rw [hall]
    exact h.marked hg level hmarker hhorizontal hi hover

/-- An excerpt with a character of two octets, an empty line, a highlight over several lines, and
one that ends with a line feed. -/
def accented : Excerpt where
  source := ⟨"é=1\n\nb"⟩
  highlights :=
    [⟨⟨2, 7, none, none, none⟩, ⟨1, 2, 2⟩, ⟨3, 2, 7⟩⟩,
      ⟨⟨3, 5, none, none, none⟩, ⟨1, 3, 3⟩, ⟨1, 5, 5⟩⟩]

/-- In that picture the connector leads from under the second character to under the last one, and
the line feed is marked in the column after the third character. -/
theorem markers_under_ranges_accented :
    accented.Resolved ∧ ∃ rows, accented.rows = .ok rows ∧
      ((accented.openingRow 0 ⟨⟨2, 7, none, none, none⟩, ⟨1, 2, 2⟩, ⟨3, 2, 7⟩⟩).printed .ascii 1
        .error).toList[7]? = some '^' ∧
      ((accented.closingRow 0 ⟨⟨2, 7, none, none, none⟩, ⟨1, 2, 2⟩, ⟨3, 2, 7⟩⟩).printed .ascii 1
        .error).toList[6]? = some '^' ∧
      ((accented.pointerRow 1 ⟨⟨3, 5, none, none, none⟩, ⟨1, 3, 3⟩, ⟨1, 5, 5⟩⟩).printed .ascii 1
        .error).toList.drop 6 = [' ', ' ', '^', '^'] := by
  have hresolved : accented.Resolved := by
    unfold Resolved
    decide
  have hoffset : ∀ j ≤ accented.source.chars.length,
      ((2 : ℤ) = octetCount (accented.source.chars.take j) → j = 1) ∧
      ((3 : ℤ) = octetCount (accented.source.chars.take j) → j = 2) ∧
      ((5 : ℤ) = octetCount (accented.source.chars.take j) → j = 4) ∧
      ((7 : ℤ) = octetCount (accented.source.chars.take j) → j = 6) := by decide
  obtain ⟨rows, hrows⟩ := hresolved.exists_rows_iff.mpr ⟨by decide, by decide⟩
  obtain ⟨-, -, marker, horizontal, hmarker, -, hmarked⟩ :=
    markers_under_ranges hresolved hrows Glyphs.ascii_visible.toSingle .error
  obtain rfl : marker = '^' := by
    have hsame : "^" = String.singleton marker := hmarker
    rw [← String.toList_inj, String.toList_singleton] at hsame
    exact (List.singleton_inj.mp hsame).symm
  obtain ⟨j, k, hjk, hk, hstart, hstop, hconnector⟩ := hmarked 0 _ rfl
  obtain rfl := (hoffset j (by omega)).1 hstart
  obtain rfl := (hoffset k hk).2.2.2 hstop
  obtain ⟨j, k, hjk, hk, hstart, hstop, hpointer⟩ := hmarked 1 _ rfl
  obtain rfl := (hoffset j (by omega)).2.1 hstart
  obtain rfl := (hoffset k hk).2.2.1 hstop
  exact ⟨hresolved, rows, hrows, (hconnector.opening (by decide)).2.1,
    (hconnector.closing (by decide)).2.2.1, hpointer.pointer (by decide)⟩

end Excerpt

end Diagnostics
