import Diagnostics.Proofs.Connectors

/-!
# Drawing line by line

Drawing goes down the lines to be shown until it comes to one that the source does not have. This
file says when it gets to the end, where it stops otherwise, and which lines its rows show. Nothing
is assumed about the highlights: they may have been placed on another source.
-/

namespace Diagnostics.Excerpt

/-- The line that a row shows, if it is the row of a line of the source. -/
def Row.line? : Row → Option ℕ
  | .source line _ _ _ => some line
  | .gap | .mark _ _ _ | .continued _ _ _ => none

section Below

variable {line align lane : ℕ} {lanes : Lanes} {a : Highlight} {row : Row}

/-- The rows of a highlight under a line belong to its messages. -/
theorem exists_messageRows_of_mem_rowsBelow (h : row ∈ (rowsBelow line align lane lanes a).1) :
    ∃ cells below head message, row ∈ messageRows cells below head message := by
  by_cases hlane : a.multiline = true
  · by_cases hstart : a.start.line = line
    · rw [rowsBelow_of_start hlane hstart] at h
      exact ⟨_, _, _, _, h⟩
    · by_cases hstop : a.stop.line = line
      · rw [rowsBelow_of_stop hlane hstop] at h
        exact ⟨_, _, _, _, h⟩
      · rw [rowsBelow_of_ne hlane hstart hstop] at h
        exact absurd h List.not_mem_nil
  · rw [rowsBelow_of_not_multiline (by simpa using hlane)] at h
    split at h
    · obtain ⟨head, message, hmem⟩ := exists_messageRows_of_mem_pointerRows h
      exact ⟨_, _, _, _, hmem⟩
    · exact absurd h List.not_mem_nil

/-- The rows of highlights under a line belong to their messages. -/
theorem exists_messageRows_of_mem_highlightRows {highlights : List Highlight}
    (h : row ∈ (highlightRows line align lane lanes highlights).1) :
    ∃ cells below head message, row ∈ messageRows cells below head message := by
  induction highlights generalizing lane lanes with
  | nil => exact absurd h List.not_mem_nil
  | cons a rest ih =>
    rcases List.mem_append.mp h with h | h
    · exact exists_messageRows_of_mem_rowsBelow h
    · exact ih h

/-- The rows of highlights show no line of the source. -/
theorem line?_of_mem_highlightRows {highlights : List Highlight}
    (h : row ∈ (highlightRows line align lane lanes highlights).1) : row.line? = none := by
  obtain ⟨cells, below, head, message, hmem⟩ := exists_messageRows_of_mem_highlightRows h
  rcases mark_or_continued_of_mem hmem with ⟨first, rfl⟩ | ⟨part, rfl⟩
  · rfl
  · rfl

/-- Neither does a row for lines left out. -/
theorem line?_of_mem_gapRows {previous : Option ℕ} (h : row ∈ gapRows previous line) :
    row.line? = none := by
  have hgap : row = .gap := by
    unfold gapRows at h
    split at h
    · exact absurd h List.not_mem_nil
    · split at h
      · exact List.mem_singleton.mp h
      · exact absurd h List.not_mem_nil
  rw [hgap]
  rfl

end Below

section Progress

variable {e : Excerpt} {previous : Option ℕ} {lanes : Lanes} {lines : List ℕ}

/-- The row of a line that the source does not have cannot be drawn. -/
theorem sourceRow_eq_error {line : ℕ} (h : ¬(1 ≤ line ∧ line ≤ e.source.lineCount)) :
    e.sourceRow lanes line = .error (.lineOutOfRange line e.source.lineCount) := by
  rw [sourceRow, Source.lineText_eq_error (by exact_mod_cast h)]
  rfl

/-- Lines of the source are all drawn, and their rows are among those drawn, once each and in
order. -/
theorem exists_linesRows_of_bounds (previous : Option ℕ) (lanes : Lanes)
    (h : ∀ n ∈ lines, 1 ≤ n ∧ n ≤ e.source.lineCount) :
    ∃ rows, (e.linesRows previous lanes lines).1 = .ok rows ∧
      rows.filterMap Row.line? = lines := by
  induction lines generalizing previous lanes with
  | nil => exact ⟨[], rfl, rfl⟩
  | cons line lines ih =>
    obtain ⟨⟨hone, hcount⟩, hrest⟩ := List.forall_mem_cons.mp h
    obtain ⟨others, hothers, hshown⟩ := @ih (some line)
      (highlightRows line (e.align line) 0 lanes e.highlights).2 hrest
    have hgap : (gapRows previous line).filterMap Row.line? = [] :=
      List.filterMap_eq_nil_iff.mpr fun row hrow => line?_of_mem_gapRows hrow
    have hbelow : (highlightRows line (e.align line) 0 lanes e.highlights).1.filterMap Row.line? =
        [] := List.filterMap_eq_nil_iff.mpr fun row hrow => line?_of_mem_highlightRows hrow
    have hdrawn : (e.linesRows previous lanes (line :: lines)).1 = .ok (gapRows previous line ++
        .source line lanes.cells (e.source.textAt line)
          (e.options.showNewlines && decide (line < e.source.lineCount)) ::
        (highlightRows line (e.align line) 0 lanes e.highlights).1 ++ others) := by
      rw [linesRows, sourceRow_eq_ok lanes hone hcount]
      exact congrArg (Except.map _) hothers
    refine ⟨_, hdrawn, ?_⟩
    simp only [List.filterMap_append, List.filterMap_cons, hgap, hbelow, hshown, Row.line?,
      List.nil_append, List.cons_append]

/-- Drawing stops at the first line that the source does not have. -/
theorem linesRows_eq_error {front back : List ℕ} {line : ℕ}
    (hfront : ∀ n ∈ front, 1 ≤ n ∧ n ≤ e.source.lineCount)
    (hline : ¬(1 ≤ line ∧ line ≤ e.source.lineCount)) :
    (e.linesRows previous lanes (front ++ line :: back)).1 =
      .error (.lineOutOfRange line e.source.lineCount) := by
  induction front generalizing previous lanes with
  | nil => rw [List.nil_append, linesRows, sourceRow_eq_error hline]
  | cons n front ih =>
    obtain ⟨⟨hone, hcount⟩, hrest⟩ := List.forall_mem_cons.mp hfront
    have hothers := @ih (some n) (highlightRows n (e.align n) 0 lanes e.highlights).2 hrest
    rw [List.cons_append, linesRows, sourceRow_eq_ok lanes hone hcount]
    exact congrArg (Except.map _) hothers

/-- Lines that are drawn to the end are lines of the source, and the rows show them in order. -/
theorem filterMap_line?_of_linesRows {rows : List Row}
    (h : (e.linesRows previous lanes lines).1 = .ok rows) :
    (∀ n ∈ lines, 1 ≤ n ∧ n ≤ e.source.lineCount) ∧ rows.filterMap Row.line? = lines := by
  have hbounds : ∀ n ∈ lines, 1 ≤ n ∧ n ≤ e.source.lineCount := by
    induction lines generalizing previous lanes rows with
    | nil => exact fun n hn => absurd hn List.not_mem_nil
    | cons line lines ih =>
      by_cases hline : 1 ≤ line ∧ line ≤ e.source.lineCount
      · rw [linesRows, sourceRow_eq_ok lanes hline.1 hline.2] at h
        cases hothers : (e.linesRows (some line)
            (highlightRows line (e.align line) 0 lanes e.highlights).2 lines).1 with
        | error failure =>
          simp only [hothers] at h
          cases h
        | ok others => exact List.forall_mem_cons.mpr ⟨hline, ih hothers⟩
      · rw [linesRows, sourceRow_eq_error hline] at h
        cases h
  obtain ⟨drawn, hdrawn, hshown⟩ := exists_linesRows_of_bounds previous lanes hbounds
  rw [h, Except.ok.injEq] at hdrawn
  exact ⟨hbounds, by rw [hdrawn, hshown]⟩

end Progress

end Diagnostics.Excerpt
