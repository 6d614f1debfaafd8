import Diagnostics.Proofs.Characters
import Diagnostics.Proofs.Construction
import Diagnostics.Proofs.RowCounts

/-!
# Characters that reach a line of an excerpt

A row of an excerpt shows a line of the source or a line of a message, and all else in it is drawn
with marks, spaces and digits. A character that is not printable and in no mark therefore reaches a
line only from the source, where line feeds are lost, or from a message or a text around the rows,
where all line boundaries are.
-/

namespace Diagnostics

namespace Source

/-- Cutting at line feeds is splitting at them. -/
theorem cutAtFeeds_eq_splitOn (cs : List Char) : cutAtFeeds cs = cs.splitOn '\n' := by
  induction cs with
  | nil => rfl
  | cons c cs ih =>
    rw [cutAtFeeds, ih]
    by_cases hc : c = '\n'
    · rw [if_pos hc, hc, Text.splitOn_cons_self]
    · obtain ⟨first, others, hrest, hpieces⟩ := Text.splitOn_cons_of_ne hc cs
      rw [if_neg hc, hrest, hpieces, Text.consFirst]

/-- A character that is lost where a source is cut is in none of its lines. -/
theorem not_mem_textAt {source : Source} {c : Char}
    (hsource : Fragment.Hides ⟨source.text, .atFeeds⟩ c) (line : ℕ) :
    c ∉ (source.textAt line).toList := by
  intro hmem
  rw [textAt, String.toList_ofList, cutAtFeeds_eq_splitOn] at hmem
  cases hpiece : (source.chars.splitOn '\n')[line - 1]? with
  | none =>
    rw [hpiece] at hmem
    exact absurd hmem List.not_mem_nil
  | some piece =>
    rw [hpiece] at hmem
    obtain ⟨hc, hne⟩ := Text.mem_and_ne_of_mem_splitOn (List.mem_of_getElem? hpiece) hmem
    have hlost : (c == '\n') = true := hsource hc
    exact hne (eq_of_beq hlost)

end Source

namespace Excerpt

variable {c : Char} {g : Glyphs} {level : Severity}

/-- The text that a row shows: a line of the source, or a line of a message. -/
def Row.shown? : Row → Option String
  | .source _ _ text _ => some text
  | row => row.message?

section Rows

/-- Cells are drawn with marks and spaces. -/
theorem not_mem_drawCells (hc : Text.isPrintable c = false) (hg : g.Avoids c) (cells : List Cell) :
    c ∉ (drawCells g cells).toList := by
  have hspace := Text.not_mem_space hc
  rw [drawCells, String.toList_join, List.mem_flatMap]
  rintro ⟨s, hs, hmem⟩
  obtain ⟨cell, -, rfl⟩ := List.mem_map.mp hs
  cases cell with
  | blank => exact hspace hmem
  | bar => exact hg.vertical hmem
  | run => exact hg.horizontal hmem
  | opening => exact hg.topCorner hmem
  | closing => exact hg.bottomCorner hmem

/-- The gutter is drawn with a number, the bar and spaces. -/
theorem not_mem_drawGutter (hc : Text.isPrintable c = false) (hg : g.Avoids c) {number : String}
    (hnumber : c ∉ number.toList) (width : ℕ) : c ∉ (drawGutter g width number).toList := by
  have hspace := Text.not_mem_space hc
  simp only [drawGutter, Text.not_mem_append]
  exact ⟨⟨⟨Text.not_mem_padLeft hc hnumber width, hspace⟩, hg.vertical⟩, hspace⟩

/-- A head is drawn with marks and spaces. -/
theorem avoids_draw_head (hc : Text.isPrintable c = false) (hg : g.Avoids c) (head : Head) :
    (head.draw g level).Avoids c := by
  cases head with
  | pointer column width fill hint =>
    simp only [Head.draw, Line.avoids_cons, Severity.paint_text, Line.avoids_nil, and_true]
    exact ⟨Text.not_mem_spaces hc _, Text.not_mem_replicate hg.marker _, Text.not_mem_spaces hc _⟩
  | hook column reach =>
    simp only [Head.draw, drawHook, Line.avoids_plain, Text.not_mem_append]
    exact ⟨⟨⟨Text.not_mem_spaces hc _, hg.bottomCorner⟩, hg.horizontal⟩,
      Text.not_mem_replicate hg.horizontal _⟩
  | connector column hint =>
    simp only [Head.draw, drawLead, Line.avoids_cons, Severity.paint_text, Line.avoids_nil,
      and_true]
    exact ⟨Text.not_mem_replicate hg.horizontal _, hg.marker⟩

/-- A row has the characters of its text, and those drawn around it. -/
theorem avoids_draw_row (hc : Text.isPrintable c = false) (hg : g.Avoids c) {row : Row}
    (hrow : ∀ s, row.shown? = some s → c ∉ s.toList) (width : ℕ) :
    (row.draw g width level).Avoids c := by
  have hspace := Text.not_mem_space hc
  have hempty : c ∉ "".toList := List.not_mem_nil
  cases row with
  | gap =>
    simp only [Row.draw, Line.avoids_plain, Text.not_mem_append]
    exact ⟨⟨Text.not_mem_padLeft hc hempty width, hspace⟩, hg.ellipsis⟩
  | source line cells text lineFeed =>
    have htext := hrow text rfl
    rw [Row.draw, Line.avoids_plain]
    refine Text.not_mem_trimEnd ?_
    simp only [Text.not_mem_append]
    refine ⟨⟨not_mem_drawGutter hc hg (Text.not_mem_repr hc line) width,
      not_mem_drawCells hc hg cells⟩, ?_⟩
    split
    · rw [Text.not_mem_append]
      exact ⟨htext, hg.newline⟩
    · exact htext
  | mark cells head message =>
    simp only [Row.draw, Line.avoids_append, Line.avoids_plain, Text.not_mem_append]
    refine ⟨⟨⟨not_mem_drawGutter hc hg hempty width, not_mem_drawCells hc hg cells⟩,
      avoids_draw_head hc hg head⟩, ?_⟩
    cases message with
    | none => exact Line.avoids_nil
    | some s =>
      rw [drawMessage, Line.avoids_plain, Text.not_mem_append]
      exact ⟨hspace, hrow s rfl⟩
  | continued cells head message =>
    rw [Row.draw, Line.avoids_plain]
    refine Text.not_mem_trimEnd ?_
    simp only [Text.not_mem_append]
    exact ⟨⟨⟨not_mem_drawGutter hc hg hempty width, not_mem_drawCells hc hg cells⟩,
      Text.not_mem_spaces hc _⟩, hrow message rfl⟩

end Rows

section Shown

variable {e : Excerpt}

/-- What a row under a line shows is a line of a message. -/
theorem Resolved.shown?_eq_message? (h : e.Resolved) {line : ℕ} {row : Row}
    (hrow : row ∈ e.rowsUnder line) : row.shown? = row.message? := by
  obtain ⟨⟨a, i⟩, hi, hrow⟩ := List.mem_flatMap.mp hrow
  have ha := List.mk_mem_zipIdx_iff_getElem?.mp hi
  have hlines := (h.line_bounds (List.mem_of_getElem? ha)).2.1
  obtain ⟨cells, below, head, message, hmem, -⟩ := exists_messageRows_of_mem_rowsOf ha hlines hrow
  rcases mark_or_continued_of_mem hmem with ⟨first, rfl⟩ | ⟨part, rfl⟩ <;> rfl

/-- What a row shows is a line of the source, or a line of a message of a highlight. -/
theorem Resolved.shown?_cases (h : e.Resolved) {line : ℕ} {row : Row} {s : String}
    (hrow : row ∈ e.lineRows line) (hs : row.shown? = some s) :
    s = e.source.textAt line ∨ ∃ a ∈ e.highlights,
      s ∈ messageLines a.span.inlineMessage ∨ s ∈ messageLines a.span.trailingMessage := by
  rcases List.mem_append.mp hrow with hrow | hrow
  · rw [eq_gap_of_mem_gapAbove hrow] at hs
    cases hs
  · rcases List.mem_cons.mp hrow with rfl | hrow
    · exact Or.inl (Option.some.inj hs).symm
    · rw [h.shown?_eq_message? hrow] at hs
      obtain ⟨⟨a, i⟩, hi, hrow⟩ := List.mem_flatMap.mp hrow
      have ha := List.mk_mem_zipIdx_iff_getElem?.mp hi
      exact Or.inr ⟨a, List.mem_of_getElem? ha, (h.drawnOnce ha).mem_messageLines hrow hs⟩

/-- A character that is lost where a message is cut is in none of its lines. -/
theorem not_mem_of_mem_messageLines {message : Option String} {s : String}
    (hmessage : ∀ t, message = some t → Fragment.Hides ⟨t, .atBoundaries⟩ c)
    (hs : s ∈ messageLines message) : c ∉ s.toList := by
  cases message with
  | none => exact absurd hs List.not_mem_nil
  | some t => exact Text.not_mem_of_mem_lines (hmessage t rfl) hs

end Shown

section Borders

variable {options : Options}

/-- The top border is drawn with marks and the path of the file. -/
theorem not_mem_topBorder (hc : Text.isPrintable c = false) (hg : g.Avoids c)
    (hpath : ∀ s, options.filePath = some s → Fragment.Hides ⟨s, .atBoundaries⟩ c) :
    c ∉ (topBorder g options).toList := by
  have hopen : c ∉ "[".toList := Text.not_mem_of_all_isPrintable hc (by decide)
  have hclose : c ∉ "]".toList := Text.not_mem_of_all_isPrintable hc (by decide)
  simp only [topBorder, Text.not_mem_append]
  refine ⟨⟨hg.topCorner, hg.horizontal⟩, ?_⟩
  cases hpresent : Text.nonempty? options.filePath with
  | none => exact List.not_mem_nil
  | some path =>
    have hkept := Text.not_mem_onOneLine hc (hpath path (Text.nonempty?_eq_some_iff.mp hpresent).1)
    simp only [Text.not_mem_append]
    exact ⟨⟨hopen, hkept⟩, hclose⟩

/-- The lines above the rows are drawn with the symbol of the severity, the title and the border. -/
theorem avoids_of_mem_topLines (hc : Text.isPrintable c = false) (hg : g.Avoids c)
    (htitle : ∀ s, options.title = some s → Fragment.Hides ⟨s, .atBoundaries⟩ c)
    (hpath : ∀ s, options.filePath = some s → Fragment.Hides ⟨s, .atBoundaries⟩ c) {width : ℕ}
    {line : Line} (hline : line ∈ topLines g level width options) : line.Avoids c := by
  have hspace := Text.not_mem_space hc
  have hsymbol := Text.not_mem_padLeft hc (Layout.not_mem_symbol hc level) width
  have hborder := not_mem_topBorder hc hg hpath
  rw [topLines] at hline
  cases hpresent : Text.nonempty? options.title with
  | none =>
    simp only [hpresent, List.mem_singleton] at hline
    simp only [hline, Line.avoids_cons, Severity.paint_text, Text.not_mem_append, Line.avoids_nil,
      and_true]
    exact ⟨hsymbol, hspace, hborder⟩
  | some title =>
    obtain ⟨hfirst, hrest⟩ :=
      Text.not_mem_firstAndRest (htitle title (Text.nonempty?_eq_some_iff.mp hpresent).1)
    simp only [hpresent, List.cons_append, List.mem_cons, List.mem_append, List.mem_map,
      List.not_mem_nil, or_false] at hline
    rcases hline with rfl | ⟨part, hpart, rfl⟩ | rfl
    · simp only [Line.avoids_cons, Severity.paint_text, Text.not_mem_append, Line.avoids_nil,
        and_true]
      exact ⟨hsymbol, hspace, hfirst⟩
    · rw [Line.avoids_plain, Text.not_mem_append]
      exact ⟨Text.not_mem_spaces hc _, hrest part hpart⟩
    · rw [Line.avoids_plain, Text.not_mem_append]
      exact ⟨Text.not_mem_spaces hc _, hborder⟩

/-- The lines below the rows are drawn with the border and the final message. -/
theorem avoids_of_mem_bottomLines (hc : Text.isPrintable c = false) (hg : g.Avoids c)
    (hmessage : ∀ s, options.finalMessage = some s → Fragment.Hides ⟨s, .atBoundaries⟩ c)
    {width : ℕ} {line : Line} (hline : line ∈ bottomLines g width options) : line.Avoids c := by
  have hspace := Text.not_mem_space hc
  have hborder : c ∉ (Text.spaces (width + 1) ++ g.bottomCorner ++ g.horizontal).toList := by
    simp only [Text.not_mem_append]
    exact ⟨⟨Text.not_mem_spaces hc _, hg.bottomCorner⟩, hg.horizontal⟩
  rw [bottomLines] at hline
  cases hpresent : Text.nonempty? options.finalMessage with
  | none =>
    simp only [hpresent, List.mem_singleton] at hline
    rwa [hline, Line.avoids_plain]
  | some message =>
    obtain ⟨hfirst, hrest⟩ :=
      Text.not_mem_firstAndRest (hmessage message (Text.nonempty?_eq_some_iff.mp hpresent).1)
    simp only [hpresent, List.mem_cons, List.mem_map] at hline
    rcases hline with rfl | ⟨part, hpart, rfl⟩
    · rw [Line.avoids_plain, Text.not_mem_append, Text.not_mem_append]
      exact ⟨⟨hborder, hspace⟩, hfirst⟩
    · rw [Line.avoids_plain, Text.not_mem_append]
      exact ⟨Text.not_mem_spaces hc _, hrest part hpart⟩

end Borders

end Excerpt

/-- A line of a code block shows a character that is not printable and in no mark only if one of the
strings of the block does. -/
theorem Code.avoids_of_mem_draw (code : Code) {c : Char} {g : Glyphs} {level : Severity}
    (hc : Text.isPrintable c = false) (hg : g.Avoids c) (hcode : ∀ f ∈ code.fragments, f.Hides c)
    {lines : List Line} (hlines : code.excerpt.draw g level = .ok lines) {line : Line}
    (hline : line ∈ lines) : line.Avoids c := by
  simp only [Code.fragments, List.forall_mem_cons, List.forall_mem_append, List.cons_append,
    List.mem_flatMap, forall_exists_index, and_imp, Fragment.forall_mem_present] at hcode
  obtain ⟨hsource, haround, hspans⟩ := hcode
  obtain ⟨rows, hrows, rfl⟩ := Excerpt.exists_rows_of_draw hlines
  rw [Excerpt.frame, Excerpt.frameOfWidth, List.mem_append, List.mem_append] at hline
  rcases hline with (hline | hline) | hline
  · exact Excerpt.avoids_of_mem_topLines hc hg (fun s hs => haround s (by simp [← hs, excerpt]))
      (fun s hs => haround s (by simp [← hs, excerpt])) hline
  · obtain ⟨row, hrow, rfl⟩ := List.mem_map.mp hline
    rw [(code.excerpt_resolved.drawRows_eq_of_rows hrows).1] at hrow
    obtain ⟨number, -, hrow⟩ := List.mem_flatMap.mp hrow
    refine Excerpt.avoids_draw_row hc hg (fun s hs => ?_) _
    rcases code.excerpt_resolved.shown?_cases hrow hs with rfl | ⟨a, ha, hs⟩
    · exact Source.not_mem_textAt hsource number
    · have hspan := Highlight.span_mem_of_resolveAll code.resolved ha
      have hmessages := Fragment.forall_mem_present.mp fun f => hspans f a.span hspan
      rcases hs with hs | hs
      · exact Excerpt.not_mem_of_mem_messageLines (fun t ht => hmessages t (by simp [ht])) hs
      · exact Excerpt.not_mem_of_mem_messageLines (fun t ht => hmessages t (by simp [ht])) hs
  · exact Excerpt.avoids_of_mem_bottomLines hc hg
      (fun s hs => haround s (by simp [← hs, excerpt])) hline

end Diagnostics
