import Diagnostics.Excerpt.Drawing
import Diagnostics.Proofs.DrawnLines
import Diagnostics.Proofs.PromisedLines
import Mathlib.Data.Nat.Find

/-!
# When drawing fails

The highlights of an excerpt may have been placed on another text than the one it shows. Drawing
then fails exactly if there is nothing to show or if a highlight ends below the last line, and it
names the first displayed line that the source does not have. A run fails in the middle of its rows
and leaves lanes open, but the next run settles them anew, so every run has the same outcome.
-/

namespace Diagnostics.Excerpt

section Outcomes

variable {e : Excerpt}

/-- Highlights that were placed on some text run forward. -/
theorem forward_of_resolved
    (h : ∀ a ∈ e.highlights, ∃ source, Highlight.resolve source a.span = .ok a) : e.Forward := by
  intro a ha
  obtain ⟨source, hresolved⟩ := h a ha
  obtain ⟨-, j, k, hover⟩ := Highlight.exists_over_of_resolve hresolved
  exact ⟨hover.one_le_line, hover.line_le⟩

/-- If a highlight ends below the source, drawing stops at the first displayed line below it. -/
theorem Forward.exists_rows_eq_error (h : e.Forward) (htext : e.source.text ≠ "")
    (hbelow : ∃ a ∈ e.highlights, e.source.lineCount < a.stop.line) :
    ∃ n, IsLeast {n | n ∈ e.displayedLines ∧ e.source.lineCount < n} n ∧
      e.rows = .error (.lineOutOfRange n e.source.lineCount) := by
  obtain ⟨a, ha, hcount⟩ := hbelow
  have hshown : a.stop.line ∈ e.displayedLines :=
    h.mem_displayedLines ⟨a, ha, (h a ha).2, le_rfl⟩
  have hsome : ∃ n, n ∈ e.displayedLines ∧ e.source.lineCount < n := ⟨_, hshown, hcount⟩
  obtain ⟨n, hleast⟩ : ∃ n, IsLeast {n | n ∈ e.displayedLines ∧ e.source.lineCount < n} n :=
    ⟨Nat.find hsome, Nat.find_spec hsome, fun n hn => Nat.find_min' hsome hn⟩
  refine ⟨n, hleast, ?_⟩
  obtain ⟨⟨hmem, hover⟩, hfirst⟩ := hleast
  obtain ⟨front, back, hsplit⟩ := List.append_of_mem hmem
  have hfront : ∀ m ∈ front, 1 ≤ m ∧ m ≤ e.source.lineCount := by
    intro m hm
    have hdisplayed : m ∈ e.displayedLines := by rw [hsplit]; simp [hm]
    have habove := lt_of_mem_drawn hsplit hm
    refine ⟨h.one_le_of_mem_displayedLines hdisplayed, ?_⟩
    by_contra hlate
    have := hfirst ⟨hdisplayed, by omega⟩
    omega
  rw [rows, drawRows_eq_linesRows htext (List.ne_nil_of_mem hshown), hsplit]
  exact linesRows_eq_error hfront (by omega)

/-- If all highlights end on the source, all displayed lines are drawn. -/
theorem Forward.exists_rows_eq_ok (h : e.Forward) (htext : e.source.text ≠ "")
    (hne : e.highlights ≠ []) (hcount : ∀ a ∈ e.highlights, a.stop.line ≤ e.source.lineCount) :
    ∃ rows, e.rows = .ok rows := by
  obtain ⟨first, last, hfirst, hlast⟩ := h.exists_extent hne
  have hshown := h.mem_displayedLines hfirst.1
  obtain ⟨rows, hrows, -⟩ := exists_linesRows_of_bounds none (.closed (laneCount e.highlights))
    fun n hn => displayedLines_bounds_of_forward h hfirst hlast hcount hn
  refine ⟨rows, ?_⟩
  rw [Excerpt.rows, drawRows_eq_linesRows htext (List.ne_nil_of_mem hshown)]
  exact hrows

end Outcomes

namespace Drawing

/-- A run draws its excerpt, whatever the last run left behind. -/
theorem run_fst (d : Drawing) : d.run.1 = d.excerpt.draw d.glyphs d.level := by
  rw [run, draw]
  by_cases htext : d.excerpt.source.text = ""
  · rw [if_pos (by simpa using htext), rows_of_empty htext]
    rfl
  · rw [if_neg (by simpa using htext)]
    cases hlast : d.excerpt.displayedLines.getLast? with
    | none =>
      have hnone := List.getLast?_eq_none_iff.mp hlast
      rw [rows_of_nothing htext hnone]
      rfl
    | some last =>
      have hlines : d.excerpt.displayedLines ≠ [] := List.ne_nil_of_mem (List.mem_of_getLast? hlast)
      have hwidth : d.excerpt.gutterWidth = last.repr.length := by rw [gutterWidth, hlast]
      rw [rows, drawRows_eq_linesRows htext hlines]
      unfold Excerpt.frame
      rw [hwidth]

/-- A run leaves what is drawn as it is. -/
theorem run_snd (d : Drawing) : d.run.2.excerpt = d.excerpt ∧ d.run.2.glyphs = d.glyphs ∧
    d.run.2.level = d.level := by
  rw [run]
  split
  · exact ⟨rfl, rfl, rfl⟩
  · split <;> exact ⟨rfl, rfl, rfl⟩

/-- The next run has the same outcome. -/
theorem run_run_fst (d : Drawing) : d.run.2.run.1 = d.run.1 := by
  obtain ⟨hexcerpt, hglyphs, hlevel⟩ := d.run_snd
  rw [run_fst, hexcerpt, hglyphs, hlevel, run_fst]

/-- A set of lines has one least line. -/
theorem exists_isLeast_iff {lines : Set ℕ} {first : ℕ} (h : IsLeast lines first) {line : ℤ} :
    (∃ n : ℕ, line = n ∧ IsLeast lines n) ↔ (first : ℤ) = line := by
  constructor
  · rintro ⟨n, rfl, hn⟩
    rw [hn.unique h]
  · rintro rfl
    exact ⟨first, rfl, h⟩

/-- A drawing after a number of runs. -/
def after (d : Drawing) : ℕ → Drawing
  | 0 => d
  | n + 1 => (d.after n).run.2

/-- No number of runs changes the outcome. -/
theorem run_after_fst (d : Drawing) (n : ℕ) : (d.after n).run.1 = d.run.1 := by
  induction n with
  | zero => rfl
  | succ n ih => exact (d.after n).run_run_fst.trans ih

/-- A run fails exactly when it must. With highlights that were each placed on some text, it fails
without a line to show if the source is empty or there is no highlight. Otherwise it fails exactly
if some highlight ends below the last line of the source, and then it names the first displayed line
that the source does not have and the number of lines. In all other cases it draws, and every
further run has the same outcome, also after one that failed. -/
theorem run_fails_exactly (d : Drawing)
    (h : ∀ a ∈ d.excerpt.highlights, ∃ source, Highlight.resolve source a.span = .ok a) :
    (d.run.1 = .error .emptySource ↔ d.excerpt.source.text = "") ∧
    (d.run.1 = .error .nothingDisplayed ↔
      d.excerpt.source.text ≠ "" ∧ d.excerpt.highlights = []) ∧
    (∀ (line : ℤ) (count : ℕ), d.run.1 = .error (.lineOutOfRange line count) ↔
      d.excerpt.source.text ≠ "" ∧
      (∃ a ∈ d.excerpt.highlights, d.excerpt.source.lineCount < a.stop.line) ∧
      (∃ n : ℕ, line = n ∧
        IsLeast {n | n ∈ d.excerpt.displayedLines ∧ d.excerpt.source.lineCount < n} n) ∧
      count = d.excerpt.source.lineCount) ∧
    ((∃ lines, d.run.1 = .ok lines) ↔ d.excerpt.source.text ≠ "" ∧ d.excerpt.highlights ≠ [] ∧
      ∀ a ∈ d.excerpt.highlights, a.stop.line ≤ d.excerpt.source.lineCount) ∧
    ∀ n, (d.after n).run.1 = d.run.1 := by
  have hforward := forward_of_resolved h
  have hrun : d.run.1 = d.excerpt.rows.map (d.excerpt.frame d.glyphs d.level) := d.run_fst
  rw [← and_assoc, ← and_assoc, ← and_assoc]
  refine ⟨?_, d.run_after_fst⟩
  -- Four cases exclude each other, and each has an outcome of its own.
  by_cases htext : d.excerpt.source.text = ""
  · rw [hrun, rows_of_empty htext]
    simp [htext, Except.map]
  · by_cases hnil : d.excerpt.highlights = []
    · rw [hrun, rows_of_nothing htext (displayedLines_of_nil hnil)]
      simp [htext, hnil, Except.map]
    · by_cases hbelow : ∃ a ∈ d.excerpt.highlights, d.excerpt.source.lineCount < a.stop.line
      · obtain ⟨first, hleast, hrows⟩ := hforward.exists_rows_eq_error htext hbelow
        have hsome : ¬∀ a ∈ d.excerpt.highlights, a.stop.line ≤ d.excerpt.source.lineCount := by
          simpa using hbelow
        rw [hrun, hrows]
        simp only [exists_isLeast_iff hleast]
        simp [htext, hnil, hbelow, hsome, Except.map, eq_comm]
      · have hcount : ∀ a ∈ d.excerpt.highlights, a.stop.line ≤ d.excerpt.source.lineCount := by
          simpa using hbelow
        obtain ⟨rows, hrows⟩ := hforward.exists_rows_eq_ok htext hnil hcount
        rw [hrun, hrows]
        simp only [hbelow]
        simpa [htext, hnil, Except.map] using hcount

/-- A drawing of a source of two lines, with a highlight that was placed on a text of three. -/
def beyond : Drawing where
  excerpt := {
    source := ⟨"ab\ncd"⟩
    highlights := [⟨⟨1, 7, none, none, none⟩, ⟨1, 2, 1⟩, ⟨3, 2, 7⟩⟩] }
  glyphs := .ascii
  level := .error

/-- That drawing fails at line three with its lane open, and so it does when it is run again. -/
theorem run_fails_exactly_beyond :
    Highlight.resolve ⟨"ab\ncd\nef"⟩ ⟨1, 7, none, none, none⟩ =
      .ok ⟨⟨1, 7, none, none, none⟩, ⟨1, 2, 1⟩, ⟨3, 2, 7⟩⟩ ∧
    beyond.run.1 = .error (.lineOutOfRange 3 2) ∧ beyond.run.2.lanes = [true] ∧
    (beyond.after 1).run.1 = .error (.lineOutOfRange 3 2) := by
  have hplaced : Highlight.resolve ⟨"ab\ncd\nef"⟩ ⟨1, 7, none, none, none⟩ =
      .ok ⟨⟨1, 7, none, none, none⟩, ⟨1, 2, 1⟩, ⟨3, 2, 7⟩⟩ := by decide
  obtain ⟨-, -, hline, -, hafter⟩ := beyond.run_fails_exactly fun a ha => by
    obtain rfl := List.mem_singleton.mp ha
    exact ⟨_, hplaced⟩
  have hleast : IsLeast {n | n ∈ beyond.excerpt.displayedLines ∧
      beyond.excerpt.source.lineCount < n} 3 := by
    refine ⟨by decide, fun n hn => ?_⟩
    exact hn.2
  have hrun := (hline 3 2).mpr
    ⟨by decide, ⟨_, List.mem_singleton_self _, by decide⟩, ⟨3, rfl, hleast⟩, rfl⟩
  exact ⟨hplaced, hrun, by decide, (hafter 1).trans hrun⟩

end Drawing

end Diagnostics.Excerpt
