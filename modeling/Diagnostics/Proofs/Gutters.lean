import Diagnostics.Proofs.DrawnLines
import Diagnostics.Proofs.RowCounts
import Mathlib

/-!
# One gutter

All lines of a drawn excerpt have one gutter. It is as wide as the largest displayed line number,
although each kind of row makes its own, and the numbers in it are those of the displayed lines.
Nothing is assumed about the highlights, and only the bar of the gutter has to be a single
character that can be seen.
-/

namespace Diagnostics

/-- The symbol of a severity is one character. -/
theorem Severity.length_symbol (level : Severity) : level.symbol.length = 1 := by
  cases level <;> decide

namespace Text

/-- The characters up to one that can be seen stay when the blanks at the end of a text are taken
away. -/
theorem exists_trimEnd_eq (front rest : String) {c : Char} (hseen : isBlank c = false) :
    ∃ kept, trimEnd (front ++ String.singleton c ++ rest) =
      front ++ String.singleton c ++ kept := by
  have hreverse : (front ++ String.singleton c ++ rest).toList.reverse =
      rest.toList.reverse ++ c :: front.toList.reverse := by simp
  rw [trimEnd, dropTrailingBlanks, dropBlanks, hreverse, List.dropWhile_append]
  split
  · rw [List.dropWhile_cons_of_neg (by simp [hseen])]
    exact ⟨"", by simp⟩
  · exact ⟨String.ofList (rest.toList.reverse.dropWhile isBlank).reverse,
      by simp [← String.toList_inj]⟩

/-- An empty field and the space after it. -/
theorem padLeft_empty (width : ℕ) : padLeft width "" ++ " " = spaces (width + 1) := by
  rw [← String.toList_inj, String.toList_append, padLeft, String.toList_append, toList_spaces,
    toList_spaces, List.replicate_succ']
  simp

/-- Spaces are written after spaces. -/
theorem spaces_of_le {m n : ℕ} (h : m ≤ n) : spaces n = spaces m ++ spaces (n - m) := by
  rw [← String.toList_inj, String.toList_append, toList_spaces, toList_spaces, toList_spaces,
    List.replicate_append_replicate, Nat.add_sub_cancel' h]

/-- The numeral of a number has as many characters as the number has digits. -/
theorem length_repr_eq {n : ℕ} (hpos : 0 < n) : n.repr.length = (Nat.digits 10 n).length := by
  have hdigits : 0 < (Nat.digits 10 n).length :=
    List.length_pos_iff.mpr (Nat.digits_ne_nil_iff_ne_zero.mpr hpos.ne')
  refine Nat.le_antisymm ?_ ?_
  · rw [Nat.length_repr_le_iff hdigits, ← Nat.digits_length_le_iff (by decide)]
  · rw [Nat.digits_length_le_iff (by decide), ← Nat.length_repr_le_iff Nat.length_repr_pos]

/-- The number in the first columns of a line, which may have spaces before it. -/
def numberIn (width : ℕ) (s : String) : Option ℕ :=
  (String.ofList ((s.toList.take width).dropWhile (· = ' '))).toNat?

/-- A field is read as the text in it. -/
theorem numberIn_padLeft {width : ℕ} {s : String} (rest : String) (hlength : s.length ≤ width)
    (hhead : s.toList.head? ≠ some ' ') : numberIn width (padLeft width s ++ rest) = s.toNat? := by
  have hwidth : (padLeft width s).toList.length = width := by
    rw [String.length_toList, length_padLeft, Nat.max_eq_left hlength]
  have hspaces : (List.replicate (width - s.length) ' ').dropWhile (· = ' ') = [] := by simp
  have hkept : s.toList.dropWhile (· = ' ') = s.toList := by
    cases hs : s.toList with
    | nil => rfl
    | cons c cs =>
      rw [hs, List.head?_cons] at hhead
      exact List.dropWhile_cons_of_neg (by simpa using hhead)
  rw [numberIn, String.toList_append, List.take_left' hwidth, padLeft, String.toList_append,
    toList_spaces, List.dropWhile_append, hspaces, hkept, List.nil_append, ite_self,
    String.ofList_toList]

/-- A numeral in a field is read as its number. -/
theorem numberIn_repr {width n : ℕ} (rest : String) (hlength : n.repr.length ≤ width) :
    numberIn width (padLeft width n.repr ++ rest) = some n := by
  have hhead : n.repr.toList.head? ≠ some ' ' := by
    intro h
    have hmem : ' ' ∈ n.repr.toList := List.mem_of_head? h
    rw [Nat.repr, String.toList_ofList] at hmem
    exact absurd (Nat.isDigit_of_mem_toDigits (by decide) (by decide) hmem) (by decide)
  rw [numberIn_padLeft rest hlength hhead, Nat.toNat?_repr]

/-- No number is read from an empty field. -/
theorem numberIn_spaces (width : ℕ) (rest : String) :
    numberIn width (spaces (width + 1) ++ rest) = none := by
  have hnone : "".toNat? = none :=
    String.toNat?_eq_none (by simp [String.isNat_iff, Bool.eq_false_iff])
  rw [← padLeft_empty, String.append_assoc, numberIn_padLeft _ (Nat.zero_le _) (by simp), hnone]

/-- Nor from the symbol of a severity. -/
theorem numberIn_symbol {width : ℕ} (level : Severity) (rest : String) (hwidth : 0 < width) :
    numberIn width (padLeft width level.symbol ++ rest) = none := by
  have hlength := level.length_symbol
  have hhead : level.symbol.toList.head? ≠ some ' ' := by cases level <;> decide
  have hnone : level.symbol.toNat? = none := by
    apply String.toNat?_eq_none
    cases level <;> simp [Severity.symbol, Bool.eq_false_iff, String.isNat_iff]
  rw [numberIn_padLeft rest (by omega) hhead, hnone]

end Text

namespace Excerpt

section Rows

variable {g : Glyphs} {c : Char}

/-- The mark in the gutter of a row. -/
def Row.edge (g : Glyphs) : Row → String
  | .gap => g.ellipsis
  | .source _ _ _ _ | .mark _ _ _ | .continued _ _ _ => g.vertical

/-- A row is printed as its number at the right end of the gutter, a space and its mark, and what is
right of them. -/
theorem exists_printed_eq (width : ℕ) (level : Severity)
    (hvertical : g.vertical = String.singleton c) (hseen : Text.isBlank c = false) (row : Row) :
    ∃ rest, row.printed g width level =
      Text.padLeft width row.number ++ " " ++ row.edge g ++ rest := by
  by_cases hrow : row = .gap
  · subst hrow
    refine ⟨"", ?_⟩
    rw [Row.printed, Line.print_false, Row.draw, text_plain, String.append_empty]
    rfl
  · have hedge : row.edge g = String.singleton c := by
      rw [← hvertical]
      cases row with
      | gap => exact absurd rfl hrow
      | source | mark | continued => rfl
    have hfull : row.front g width ++ row.body g level = Text.padLeft width row.number ++ " " ++
        String.singleton c ++ (" " ++ drawCells g row.cells ++ row.body g level) := by
      simp only [Row.front, drawGutter, hvertical, String.append_assoc]
    rw [hedge]
    -- Blanks at the end may be missing, but nothing up to the bar.
    rcases printed_eq g width level hrow with hprinted | hprinted
    · exact ⟨_, hprinted.trans hfull⟩
    · rw [hprinted, hfull]
      exact Text.exists_trimEnd_eq _ _ hseen

end Rows

section Borders

variable (g : Glyphs) (level : Severity) (width : ℕ) (options : Options)

/-- The lines of the title and the top border begin right of the gutter, the first of them behind
the symbol. -/
theorem exists_topLines_eq :
    ∃ first rest, messageLines options.title ++ [topBorder g options] = first :: rest ∧
      (topLines g level width options).map (Line.print false) =
        (Text.padLeft width level.symbol ++ " " ++ first) ::
          rest.map (Text.spaces (width + 1) ++ ·) := by
  have hsymbol : ∀ text, Line.print false
      [level.paint (Text.padLeft width level.symbol), { text := " " ++ text }] =
        Text.padLeft width level.symbol ++ " " ++ text := by
    intro text
    simp [Line.print_false, Line.text, Severity.paint, String.append_assoc]
  have hplain : ∀ text, Line.print false (Line.plain (Text.spaces (width + 1) ++ text)) =
      Text.spaces (width + 1) ++ text := fun text => by rw [Line.print_false, text_plain]
  cases htitle : Text.nonempty? options.title with
  | none =>
    refine ⟨topBorder g options, [], by rw [nonempty?_eq_none_iff.mp htitle]; rfl, ?_⟩
    rw [topLines, htitle, List.map_singleton, hsymbol]
    rfl
  | some title =>
    obtain ⟨hpresent, hne⟩ := Text.nonempty?_eq_some_iff.mp htitle
    refine ⟨(Text.firstAndRest title).1, (Text.firstAndRest title).2 ++ [topBorder g options],
      by rw [hpresent, messageLines_some hne, List.cons_append], ?_⟩
    rw [topLines, htitle]
    simp only [List.cons_append, List.map_cons, List.map_append, List.map_map, List.map_nil,
      Function.comp_def, hsymbol, hplain]

/-- The bottom border and the lines of the final message begin right of the gutter. -/
theorem exists_bottomLines_eq :
    ∃ (first : String) (rest : List String),
      (bottomLines g width options).map (Line.print false) =
        (Text.spaces (width + 1) ++ g.bottomCorner ++ first) ::
          rest.map (Text.spaces (width + 1) ++ ·) := by
  cases hmessage : Text.nonempty? options.finalMessage with
  | none =>
    refine ⟨g.horizontal, [], ?_⟩
    rw [bottomLines, hmessage, List.map_singleton, Line.print_false, text_plain]
    rfl
  | some message =>
    let indent := (Text.spaces (width + 1) ++ g.bottomCorner ++ g.horizontal).length + 1
    have hindent : width + 1 ≤ indent := by
      simp only [indent, String.length_append, Text.length_spaces]
      omega
    refine ⟨g.horizontal ++ " " ++ (Text.firstAndRest message).1,
      (Text.firstAndRest message).2.map (Text.spaces (indent - (width + 1)) ++ ·), ?_⟩
    rw [bottomLines, hmessage]
    simp only [List.map_cons, List.map_map, Function.comp_def, Line.print_false, text_plain]
    rw [Text.spaces_of_le hindent]
    simp only [String.append_assoc]

end Borders

/-- The gutter of a drawn excerpt. -/
structure Gutter (e : Excerpt) (rows : List Row) (g : Glyphs) (level : Severity) (width : ℕ) :
    Prop where
  /-- It has as many columns as the largest displayed line has digits. -/
  digits : ∃ last, IsGreatest {n | n ∈ e.displayedLines} last ∧
    width = (Nat.digits 10 last).length
  /-- No line number is wider. -/
  fits : ∀ line ∈ e.displayedLines, line.repr.length ≤ width
  /-- The rows of the source show the displayed lines from top to bottom. -/
  lines : rows.filterMap Row.line? = e.displayedLines
  /-- The row of a line has its number at the right end of the gutter, a space and the bar. -/
  source : ∀ line cells text lineFeed, Row.source line cells text lineFeed ∈ rows →
    (Text.padLeft width line.repr).length = width ∧
    ∃ rest, (Row.source line cells text lineFeed).printed g width level =
      Text.padLeft width line.repr ++ " " ++ g.vertical ++ rest
  /-- The rows of highlights and of their messages have spaces and the bar. -/
  below : ∀ row ∈ rows, row ≠ .gap → row.line? = none →
    ∃ rest, row.printed g width level = Text.spaces (width + 1) ++ g.vertical ++ rest
  /-- A row for lines left out has spaces and the ellipsis. -/
  gap : Row.gap.printed g width level = Text.spaces (width + 1) ++ g.ellipsis
  /-- The symbol stands in the gutter, and the lines of the title and the corner of the top border
  begin right of it. -/
  top : (Text.padLeft width level.symbol).length = width ∧
    (∃ back, topBorder g e.options = g.topCorner ++ back) ∧
    ∃ first rest, messageLines e.options.title ++ [topBorder g e.options] = first :: rest ∧
      (topLines g level width e.options).map (Line.print false) =
        (Text.padLeft width level.symbol ++ " " ++ first) ::
          rest.map (Text.spaces (width + 1) ++ ·)
  /-- So does the corner of the bottom border. -/
  bottom : ∃ (first : String) (rest : List String),
    (bottomLines g width e.options).map (Line.print false) =
      (Text.spaces (width + 1) ++ g.bottomCorner ++ first) ::
        rest.map (Text.spaces (width + 1) ++ ·)

section Drawn

variable {e : Excerpt} {rows : List Row} {g : Glyphs} {level : Severity} {c : Char}

/-- An excerpt that has rows has those of its displayed lines, all of which are lines of the
source. -/
theorem lines_of_rows (hrows : e.rows = .ok rows) :
    e.displayedLines ≠ [] ∧ (∀ n ∈ e.displayedLines, 1 ≤ n ∧ n ≤ e.source.lineCount) ∧
      rows.filterMap Row.line? = e.displayedLines := by
  obtain ⟨htext, hlines⟩ := ne_of_rows hrows
  rw [Excerpt.rows, drawRows_eq_linesRows htext hlines] at hrows
  exact ⟨hlines, filterMap_line?_of_linesRows hrows⟩

/-- The gutter is as wide as the largest displayed line number. -/
theorem exists_gutterWidth_eq (hlines : e.displayedLines ≠ [])
    (hone : ∀ n ∈ e.displayedLines, 1 ≤ n) :
    ∃ last, IsGreatest {n | n ∈ e.displayedLines} last ∧
      e.gutterWidth = (Nat.digits 10 last).length := by
  have hlast := List.getLast?_eq_getLast_of_ne_nil hlines
  refine ⟨e.displayedLines.getLast hlines, ⟨List.getLast_mem hlines, fun n hn => ?_⟩, ?_⟩
  · exact le_getLast?_of_pairwise e.pairwise_displayedLines hlast hn
  · rw [gutterWidth, hlast]
    exact Text.length_repr_eq (hone _ (List.getLast_mem hlines))

/-- The number in a printed row is that of the line it shows. -/
theorem numberIn_printed (hvertical : g.vertical = String.singleton c)
    (hseen : Text.isBlank c = false) {row : Row} {width : ℕ}
    (hfits : ∀ line, row.line? = some line → line.repr.length ≤ width) :
    Text.numberIn width (row.printed g width level) = row.line? := by
  obtain ⟨rest, hprinted⟩ := exists_printed_eq width level hvertical hseen row
  rw [hprinted]
  cases row with
  | source line cells text lineFeed =>
    rw [String.append_assoc, String.append_assoc]
    exact Text.numberIn_repr _ (hfits line rfl)
  | gap | mark | continued =>
    rw [Row.number, Text.padLeft_empty, String.append_assoc]
    exact Text.numberIn_spaces width _

/-- No number is read from lines that begin right of the gutter. -/
theorem filterMap_numberIn_spaces (width : ℕ) (texts : List String) :
    (texts.map (Text.spaces (width + 1) ++ ·)).filterMap (Text.numberIn width) = [] := by
  rw [List.filterMap_eq_nil_iff]
  intro line hline
  obtain ⟨text, -, rfl⟩ := List.mem_map.mp hline
  exact Text.numberIn_spaces width text

/-- The rows and borders of an excerpt have one gutter. -/
theorem gutter_of_rows (level : Severity) (hrows : e.rows = .ok rows)
    (hvertical : g.vertical = String.singleton c) (hseen : Text.isBlank c = false) :
    e.Gutter rows g level e.gutterWidth := by
  obtain ⟨hlines, hbounds, hshown⟩ := lines_of_rows hrows
  have hpos : 0 < e.gutterWidth :=
    Nat.lt_of_lt_of_le Nat.length_repr_pos (length_repr_le_gutterWidth (List.head_mem hlines))
  constructor
  · exact exists_gutterWidth_eq hlines fun n hn => (hbounds n hn).1
  · exact fun line hline => length_repr_le_gutterWidth hline
  · exact hshown
  · intro line cells text lineFeed hrow
    have hline : line ∈ e.displayedLines := hshown ▸ List.mem_filterMap.mpr ⟨_, hrow, rfl⟩
    refine ⟨?_, exists_printed_eq _ level hvertical hseen (.source line cells text lineFeed)⟩
    rw [Text.length_padLeft, Nat.max_eq_left (length_repr_le_gutterWidth hline)]
  · intro row _ hgap hline
    obtain ⟨rest, hprinted⟩ := exists_printed_eq e.gutterWidth level hvertical hseen row
    refine ⟨rest, ?_⟩
    rw [hprinted, ← Text.padLeft_empty]
    cases row with
    | gap => exact absurd rfl hgap
    | source => cases hline
    | mark | continued => rfl
  · rw [Row.printed, Line.print_false, Row.draw, text_plain, Text.padLeft_empty]
  · refine ⟨?_, ⟨_, String.append_assoc⟩, exists_topLines_eq g level e.gutterWidth e.options⟩
    rw [Text.length_padLeft, Severity.length_symbol, Nat.max_eq_left hpos]
  · exact exists_bottomLines_eq g e.gutterWidth e.options

/-- The numbers in a gutter, from the top border to the bottom border, are the displayed lines. -/
theorem Gutter.filterMap_numberIn {width : ℕ} (h : e.Gutter rows g level width)
    (hvertical : g.vertical = String.singleton c) (hseen : Text.isBlank c = false) :
    ((topLines g level width e.options).map (Line.print false) ++
      rows.map (Row.printed g width level) ++
      (bottomLines g width e.options).map (Line.print false)).filterMap (Text.numberIn width) =
        e.displayedLines := by
  obtain ⟨hsymbol, -, first, rest, -, htop⟩ := h.top
  obtain ⟨corner, more, hbottom⟩ := h.bottom
  have hfits : ∀ row ∈ rows, ∀ line, row.line? = some line → line.repr.length ≤ width :=
    fun row hrow line hline => h.fits line (h.lines ▸ List.mem_filterMap.mpr ⟨row, hrow, hline⟩)
  have hread : (rows.map (Row.printed g width level)).filterMap (Text.numberIn width) =
      e.displayedLines := by
    rw [List.filterMap_map, ← h.lines]
    exact List.filterMap_congr fun row hrow => numberIn_printed hvertical hseen (hfits row hrow)
  have hfirst : Text.numberIn width (Text.padLeft width level.symbol ++ " " ++ first) = none := by
    rw [Text.length_padLeft, Severity.length_symbol] at hsymbol
    rw [String.append_assoc]
    exact Text.numberIn_symbol level _ (by omega)
  have hcorner : Text.numberIn width (Text.spaces (width + 1) ++ g.bottomCorner ++ corner) =
      none := by
    rw [String.append_assoc]
    exact Text.numberIn_spaces width _
  rw [htop, hbottom, List.filterMap_append, List.filterMap_append, hread,
    List.filterMap_cons_none hfirst, List.filterMap_cons_none hcorner,
    filterMap_numberIn_spaces, filterMap_numberIn_spaces, List.nil_append, List.append_nil]

/-- A drawn excerpt has one gutter. Printed without colour, with a bar that is a single character
and can be seen, its rows and borders have a gutter that is as wide as the largest displayed line
number, and the numbers read from that gutter, from the first line drawn to the last, are the
displayed lines. -/
theorem drawn_with_one_gutter {drawn : List Line} (hdraw : e.draw g level = .ok drawn)
    (hvertical : g.vertical = String.singleton c) (hseen : Text.isBlank c = false) :
    ∃ rows width, e.rows = .ok rows ∧
      drawn.map (Line.print false) =
        (topLines g level width e.options).map (Line.print false) ++
          rows.map (Row.printed g width level) ++
          (bottomLines g width e.options).map (Line.print false) ∧
      e.Gutter rows g level width ∧
      (drawn.map (Line.print false)).filterMap (Text.numberIn width) = e.displayedLines := by
  obtain ⟨rows, hrows, -⟩ := exists_rows_of_draw hdraw
  have hprinted : drawn.map (Line.print false) =
      (topLines g level e.gutterWidth e.options).map (Line.print false) ++
        rows.map (Row.printed g e.gutterWidth level) ++
        (bottomLines g e.gutterWidth e.options).map (Line.print false) := by
    have hall := print_draw hrows g level
    rw [hdraw] at hall
    exact Except.ok.inj hall
  have hgutter := gutter_of_rows level hrows hvertical hseen
  refine ⟨rows, e.gutterWidth, hrows, hprinted, hgutter, ?_⟩
  rw [hprinted]
  exact hgutter.filterMap_numberIn hvertical hseen

/-- An excerpt with a title of two lines, whose displayed lines are the ninth and the twelfth. -/
def twoDigits : Excerpt where
  source := ⟨"\n\n\n\n\n\n\n\nx\n\n\ny"⟩
  highlights :=
    [⟨⟨8, 9, some "one\ntwo", none, none⟩, ⟨9, 1, 8⟩, ⟨9, 2, 9⟩⟩,
      ⟨⟨12, 13, none, none, none⟩, ⟨12, 1, 12⟩, ⟨12, 2, 13⟩⟩]
  options := { title := some "a\nb" }

/-- Its gutter has two columns, from which nine and twelve are read. -/
theorem drawn_with_one_gutter_twoDigits :
    ∃ drawn rows, twoDigits.draw .boxDrawing .warn = .ok drawn ∧
      twoDigits.Gutter rows .boxDrawing .warn 2 ∧
      (drawn.map (Line.print false)).filterMap (Text.numberIn 2) = [9, 12] := by
  have hresolved : twoDigits.Resolved := by
    unfold Resolved
    decide
  obtain ⟨rows, hrows⟩ := hresolved.exists_rows_iff.mpr ⟨by decide, by decide⟩
  have hdraw : twoDigits.draw .boxDrawing .warn =
      .ok (twoDigits.frame .boxDrawing .warn rows) := by
    rw [draw, hrows]
    rfl
  obtain ⟨rows, width, -, -, hgutter, hread⟩ :=
    drawn_with_one_gutter hdraw (c := '│') rfl (by decide)
  have hlines : twoDigits.displayedLines = [9, 12] := by decide
  obtain ⟨last, hlast, hwidth⟩ := hgutter.digits
  obtain rfl : last = 12 := hlast.unique (by
    rw [hlines]
    exact ⟨by simp, fun n hn => by simp at hn; omega⟩)
  obtain rfl : width = 2 := by rw [hwidth]; norm_num
  exact ⟨_, rows, hdraw, hgutter, hread.trans hlines⟩

end Drawn

end Excerpt

end Diagnostics
