import Diagnostics.Excerpt.Draw
import Diagnostics.Proofs.DisplayedLines
import Diagnostics.Proofs.LaneStates

/-!
# The rows of an excerpt without state

Since the states of the lanes are known for every line and every highlight, so are the rows: those
of a line depend on the line alone and not on the rows before it. This file proves that drawing
succeeds and gives exactly these rows.
-/

namespace Diagnostics

namespace Excerpt

/-- The rows of highlight number `i` under a line. -/
def rowsOf (e : Excerpt) (line i : ℕ) (a : Highlight) : List Row :=
  (rowsBelow line (e.align line) (laneOf e.highlights i) (lanesAt e.highlights line i) a).1

/-- The rows of all highlights under a line, in the order of the highlights. -/
def rowsUnder (e : Excerpt) (line : ℕ) : List Row :=
  e.highlights.zipIdx.flatMap fun (a, i) => e.rowsOf line i a

/-- The row of a line of the source. -/
def sourceRowAt (e : Excerpt) (line : ℕ) : Row :=
  .source line (Lanes.cells ((laneHolders e.highlights).map (·.openAbove line)))
    (e.source.textAt line) (e.options.showNewlines && decide (line < e.source.lineCount))

/-- A row for lines left out, unless the line before is displayed or none is. -/
def gapAbove (e : Excerpt) (line : ℕ) : List Row :=
  if e.displayedLines.head? = some line ∨ line - 1 ∈ e.displayedLines then [] else [.gap]

/-- Above a line there is at most a row for lines left out. -/
theorem eq_gap_of_mem_gapAbove {e : Excerpt} {line : ℕ} {row : Row} (h : row ∈ e.gapAbove line) :
    row = .gap := by
  unfold gapAbove at h
  split at h
  · exact absurd h List.not_mem_nil
  · exact List.mem_singleton.mp h

/-- All rows of a displayed line: lines left out above it, the line, and its highlights. -/
def lineRows (e : Excerpt) (line : ℕ) : List Row :=
  e.gapAbove line ++ e.sourceRowAt line :: e.rowsUnder line

/-- The lanes when some lines have been drawn. -/
def lanesBehind (e : Excerpt) (drawn : List ℕ) : Lanes :=
  match drawn.getLast? with
  | none => .closed (laneCount e.highlights)
  | some line => (laneHolders e.highlights).map (·.openBelow line)

section Drawing

variable {e : Excerpt} {line : ℕ}

/-- Drawing the highlights from number `i` on gives the rows of each in turn. -/
theorem highlightRows_drop (h : e.Resolved) (line i : ℕ) :
    highlightRows line (e.align line) (laneOf e.highlights i) (lanesAt e.highlights line i)
        (e.highlights.drop i) =
      (((e.highlights.drop i).zipIdx i).flatMap fun (a, m) => e.rowsOf line m a,
        (laneHolders e.highlights).map (·.openBelow line)) := by
  -- By induction on the highlights still to be drawn; the lanes are those of `lanesAt` throughout.
  generalize hback : e.highlights.drop i = back
  induction back generalizing i with
  | nil => rw [highlightRows, lanesAt_of_length_le (List.drop_eq_nil_iff.mp hback)]; rfl
  | cons a back ih =>
    have hi : e.highlights[i]? = some a := by
      rw [← List.head?_drop, hback, List.head?_cons]
    have hrest : e.highlights.drop (i + 1) = back := by
      rw [← List.tail_drop, hback, List.tail_cons]
    have hlines := (h.line_bounds (List.mem_of_getElem? hi)).2.1
    have hnext := ih (i + 1) hrest
    have hlanes := rowsBelow_snd line (e.align line) hi hlines
    rw [laneOf_succ hi, ← hlanes] at hnext
    simp only [highlightRows, hnext, List.zipIdx_cons, List.flatMap_cons]
    rfl

/-- Drawing all highlights under a line. -/
theorem highlightRows_eq (h : e.Resolved) (line : ℕ) :
    highlightRows line (e.align line) 0 ((laneHolders e.highlights).map (·.openAbove line))
        e.highlights =
      (e.rowsUnder line, (laneHolders e.highlights).map (·.openBelow line)) := by
  have hall := highlightRows_drop h line 0
  rwa [List.drop_zero, lanesAt_zero] at hall

/-- The row of a line of the source can be drawn, whichever lanes are open. -/
theorem sourceRow_eq_ok (lanes : Lanes) (hone : 1 ≤ line) (hline : line ≤ e.source.lineCount) :
    e.sourceRow lanes line = .ok (.source line lanes.cells (e.source.textAt line)
      (e.options.showNewlines && decide (line < e.source.lineCount))) := by
  rw [sourceRow, Source.lineText_eq_textAt hone hline, Source.hasLineFeed_eq_decide hone hline]
  rfl

end Drawing

section Outcomes

variable {e : Excerpt}

/-- An excerpt of an empty source is refused. -/
theorem rows_of_empty (htext : e.source.text = "") : e.rows = .error .emptySource := by
  rw [rows, drawRows, if_pos (by simp [htext])]

/-- An excerpt without displayed lines is refused. -/
theorem rows_of_nothing (htext : e.source.text ≠ "") (hlines : e.displayedLines = []) :
    e.rows = .error .nothingDisplayed := by
  rw [rows, drawRows, if_neg (by simpa using htext), if_pos (by simp [hlines])]

/-- Any other excerpt is drawn line by line, whatever lanes an earlier drawing left open. -/
theorem drawRows_eq_linesRows (htext : e.source.text ≠ "") (hlines : e.displayedLines ≠ [])
    (lanes : Lanes) : e.drawRows lanes =
      e.linesRows none (.closed (laneCount e.highlights)) e.displayedLines := by
  rw [drawRows, if_neg (by simpa using htext), if_neg (by simpa using hlines)]

/-- An excerpt that has rows has a text and displayed lines. -/
theorem ne_of_rows {rows : List Row} (h : e.rows = .ok rows) :
    e.source.text ≠ "" ∧ e.displayedLines ≠ [] := by
  have htext : e.source.text ≠ "" := by
    intro htext
    rw [rows_of_empty htext] at h
    cases h
  refine ⟨htext, fun hlines => ?_⟩
  rw [rows_of_nothing htext hlines] at h
  cases h

end Outcomes

section Progress

variable {e : Excerpt} {drawn rest : List ℕ} {line : ℕ}

/-- Lines drawn before a displayed line are above it. -/
theorem lt_of_mem_drawn (hlines : e.displayedLines = drawn ++ line :: rest) {n : ℕ}
    (hn : n ∈ drawn) : n < line := by
  have hsorted := e.pairwise_displayedLines
  rw [hlines, List.pairwise_append] at hsorted
  exact hsorted.2.2 n hn line List.mem_cons_self

/-- A displayed line above the next one has been drawn. -/
theorem mem_drawn_of_lt (hlines : e.displayedLines = drawn ++ line :: rest) {n : ℕ}
    (hn : n ∈ e.displayedLines) (hlt : n < line) : n ∈ drawn := by
  have hsorted := e.pairwise_displayedLines
  rw [hlines, List.pairwise_append, List.pairwise_cons] at hsorted
  rw [hlines, List.mem_append, List.mem_cons] at hn
  rcases hn with hn | rfl | hn
  · exact hn
  · omega
  · have := hsorted.2.1.1 n hn
    omega

/-- Of the displayed lines above the next one, the last drawn is the furthest down. -/
theorem le_previous_of_lt {previous n : ℕ} (hlines : e.displayedLines = drawn ++ line :: rest)
    (hlast : drawn.getLast? = some previous) (hn : n ∈ e.displayedLines) (hlt : n < line) :
    n ≤ previous := by
  have hsorted := e.pairwise_displayedLines
  rw [hlines, List.pairwise_append] at hsorted
  exact le_getLast?_of_pairwise hsorted.1 hlast (mem_drawn_of_lt hlines hn hlt)

/-- The lanes behind the lines drawn so far are those above the rows of the next line: between two
neighbours among the displayed lines no highlight begins, runs or ends. -/
theorem lanesBehind_eq_openAbove (h : e.Resolved)
    (hlines : e.displayedLines = drawn ++ line :: rest) :
    e.lanesBehind drawn = (laneHolders e.highlights).map (·.openAbove line) := by
  have hbegun : ∀ a ∈ e.highlights, a.start.line < line → line ≤ a.stop.line →
      line - 1 ∈ e.displayedLines := by
    intro a ha hstart hstop
    exact h.mem_displayedLines ha (by omega) (by omega)
  unfold lanesBehind
  cases hlast : drawn.getLast? with
  | none =>
    have hnil : drawn = [] := List.getLast?_eq_none_iff.mp hlast
    simp only
    rw [Lanes.closed, ← length_laneHolders, ← List.map_const']
    refine List.map_congr_left fun a ha => ?_
    symm
    refine decide_eq_false fun hopen => ?_
    have hshown := hbegun a (List.mem_of_mem_filter ha) hopen.1 hopen.2
    have hmem := mem_drawn_of_lt hlines hshown (by omega)
    rw [hnil] at hmem
    cases hmem
  | some previous =>
    have hlt := lt_of_mem_drawn hlines (List.mem_of_getLast? hlast)
    refine List.map_congr_left fun a ha => ?_
    have ha := List.mem_of_mem_filter ha
    rw [Highlight.openBelow, Highlight.openAbove, decide_eq_decide]
    constructor
    · rintro ⟨hstart, hstop⟩
      have hnext : previous + 1 = line := by
        by_contra hne
        have hshown : previous + 1 ∈ e.displayedLines :=
          h.mem_displayedLines ha (by omega) (by omega)
        have := le_previous_of_lt hlines hlast hshown (by omega)
        omega
      omega
    · rintro ⟨hstart, hstop⟩
      have := le_previous_of_lt hlines hlast (hbegun a ha hstart hstop) (by omega)
      omega

/-- Lines are left out above a line exactly where the last line drawn is not its neighbour. -/
theorem gapRows_eq_gapAbove (h : e.Resolved) (hlines : e.displayedLines = drawn ++ line :: rest) :
    gapRows drawn.getLast? line = e.gapAbove line := by
  have hline : line ∈ e.displayedLines := by rw [hlines]; simp
  have hone := (h.displayedLines_bounds hline).1
  unfold gapAbove
  cases hlast : drawn.getLast? with
  | none =>
    have hnil : drawn = [] := List.getLast?_eq_none_iff.mp hlast
    rw [if_pos (Or.inl (by rw [hlines, hnil]; rfl))]
    rfl
  | some previous =>
    have hprevious : previous ∈ drawn := List.mem_of_getLast? hlast
    have hlt := lt_of_mem_drawn hlines hprevious
    have hhead : e.displayedLines.head? ≠ some line := by
      intro hhead
      cases hdrawn : drawn with
      | nil => simp [hdrawn] at hprevious
      | cons first drawn' =>
        rw [hlines, hdrawn, List.cons_append, List.head?_cons, Option.some.injEq] at hhead
        have := lt_of_mem_drawn hlines (n := first) (by simp [hdrawn])
        omega
    have hneighbour : line - 1 ∈ e.displayedLines ↔ ¬previous + 1 < line := by
      constructor
      · intro hmem
        have := le_previous_of_lt hlines hlast hmem (by omega)
        omega
      · intro hclose
        rw [show line - 1 = previous by omega, hlines]
        exact List.mem_append_left _ hprevious
    rw [gapRows]
    by_cases hgap : previous + 1 < line
    · rw [if_pos hgap, if_neg]
      rintro (hfirst | hmem)
      · exact hhead hfirst
      · exact hneighbour.mp hmem hgap
    · rw [if_neg hgap, if_pos (Or.inr (hneighbour.mpr hgap))]

/-- Drawing a stretch of the displayed lines, with the lines `drawn` before it, gives the rows of
each line in turn. -/
theorem linesRows_eq (h : e.Resolved) {lines : List ℕ}
    (hlines : e.displayedLines = drawn ++ lines ++ rest) :
    e.linesRows drawn.getLast? (e.lanesBehind drawn) lines =
      (.ok (lines.flatMap e.lineRows), e.lanesBehind (drawn ++ lines)) := by
  -- Each step moves a line to `drawn`; what carries over is that the lanes are those behind it.
  induction lines generalizing drawn with
  | nil => rw [linesRows, List.append_nil]; rfl
  | cons line lines ih =>
    have hsplit : e.displayedLines = drawn ++ line :: (lines ++ rest) := by
      rw [hlines, List.append_assoc, List.cons_append]
    have hline : line ∈ e.displayedLines := by rw [hsplit]; simp
    obtain ⟨hone, hcount⟩ := h.displayedLines_bounds hline
    have hnext := @ih (drawn ++ [line]) (by rw [hlines]; simp)
    have hbehind : e.lanesBehind (drawn ++ [line]) =
        (laneHolders e.highlights).map (·.openBelow line) := by
      rw [lanesBehind, List.getLast?_concat]
    rw [List.getLast?_concat, hbehind] at hnext
    rw [lanesBehind_eq_openAbove h hsplit, linesRows, sourceRow_eq_ok _ hone hcount]
    simp only [highlightRows_eq h, hnext, gapRows_eq_gapAbove h hsplit, Except.map,
      List.append_assoc, List.singleton_append, List.flatMap_cons, lineRows, sourceRowAt]

end Progress

/-- Below the last displayed line no lane is open. -/
theorem Resolved.lanesBehind_displayedLines {e : Excerpt} (h : e.Resolved) :
    e.lanesBehind e.displayedLines = .closed (laneCount e.highlights) := by
  unfold lanesBehind
  cases hlast : e.displayedLines.getLast? with
  | none => rfl
  | some line =>
    simp only
    rw [Lanes.closed, ← length_laneHolders, ← List.map_const']
    refine List.map_congr_left fun a ha => decide_eq_false fun hopen => ?_
    have ha := List.mem_of_mem_filter ha
    have hmem := h.mem_displayedLines ha (h.line_bounds ha).2.1 le_rfl
    have := le_getLast?_of_pairwise e.pairwise_displayedLines hlast hmem
    omega

/-- Drawing an excerpt with a source and highlights on it succeeds, leaves every lane closed, and
gives the rows of the displayed lines, whatever lanes an earlier drawing left open. -/
theorem Resolved.drawRows_eq {e : Excerpt} (h : e.Resolved) (htext : e.source.text ≠ "")
    (hne : e.highlights ≠ []) (lanes : Lanes) :
    e.drawRows lanes =
      (.ok (e.displayedLines.flatMap e.lineRows), .closed (laneCount e.highlights)) := by
  have hlines : e.displayedLines ≠ [] := mt h.displayedLines_eq_nil_iff.mp hne
  have hdrawn := linesRows_eq h (show e.displayedLines = [] ++ e.displayedLines ++ [] by simp)
  rw [List.nil_append, h.lanesBehind_displayedLines] at hdrawn
  rw [drawRows_eq_linesRows htext hlines]
  exact hdrawn

/-- The rows of an excerpt are those of its displayed lines. -/
theorem Resolved.rows_eq {e : Excerpt} (h : e.Resolved) (htext : e.source.text ≠ "")
    (hne : e.highlights ≠ []) : e.rows = .ok (e.displayedLines.flatMap e.lineRows) := by
  rw [rows, h.drawRows_eq htext hne]

/-- An excerpt of highlights on its source can be drawn exactly if it has a text and a
highlight. -/
theorem Resolved.exists_rows_iff {e : Excerpt} (h : e.Resolved) :
    (∃ rows, e.rows = .ok rows) ↔ e.source.text ≠ "" ∧ e.highlights ≠ [] := by
  constructor
  · rintro ⟨rows, hrows⟩
    obtain ⟨htext, hlines⟩ := ne_of_rows hrows
    exact ⟨htext, fun hnil => hlines (displayedLines_of_nil hnil)⟩
  · rintro ⟨htext, hne⟩
    exact ⟨_, h.rows_eq htext hne⟩

end Excerpt

end Diagnostics
