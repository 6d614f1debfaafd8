import Diagnostics.Excerpt.Basic
import Diagnostics.Proofs.Ranges

/-!
# Which lines are displayed

The displayed lines are the highlighted ones with context around them and small gaps filled. This
file shows that they ascend, that every highlighted line is among them, and that highlights on the
source display lines of the source only, whatever the options.
-/

namespace Diagnostics.Excerpt

/-- Every highlight of an excerpt is its own span placed on the excerpt's source. -/
def Resolved (e : Excerpt) : Prop :=
  ∀ a ∈ e.highlights, Highlight.resolve e.source a.span = .ok a

/-- A highlight of an excerpt lies over a range of characters of the source. -/
theorem Resolved.exists_over {e : Excerpt} (h : e.Resolved) {a : Highlight}
    (ha : a ∈ e.highlights) : ∃ j k, a.Over e.source.chars j k :=
  (Highlight.exists_over_of_resolve (h a ha)).2

/-- The lines of a highlight of an excerpt are lines of the source. -/
theorem Resolved.line_bounds {e : Excerpt} (h : e.Resolved) {a : Highlight}
    (ha : a ∈ e.highlights) :
    1 ≤ a.start.line ∧ a.start.line ≤ a.stop.line ∧ a.stop.line ≤ e.source.lineCount := by
  obtain ⟨j, k, hover⟩ := h.exists_over ha
  rw [Source.lineCount_eq]
  exact ⟨hover.one_le_line, hover.line_le, hover.line_le_count⟩

@[simp] theorem mem_interval {first last n : ℕ} :
    n ∈ interval first last ↔ first ≤ n ∧ n ≤ last := by
  rw [interval, List.mem_range'_1]
  omega

/-- The numbers of an interval ascend. -/
theorem pairwise_interval (first last : ℕ) : (interval first last).Pairwise (· < ·) :=
  List.pairwise_lt_range'

section Extent

variable {α : Type} {f : α → ℕ} {as : List α} {init bound : ℕ}

/-- A bound on a running maximum is one on where it starts and on all that it runs over. -/
theorem foldl_max_le_iff : as.foldl (fun m a => max m (f a)) init ≤ bound ↔
    init ≤ bound ∧ ∀ a ∈ as, f a ≤ bound := by
  induction as generalizing init with
  | nil => simp
  | cons a as ih => rw [List.foldl_cons, ih, Nat.max_le, List.forall_mem_cons, and_assoc]

/-- A bound on a running minimum is one on where it starts and on all that it runs over. -/
theorem le_foldl_min_iff : bound ≤ as.foldl (fun m a => min m (f a)) init ↔
    bound ≤ init ∧ ∀ a ∈ as, bound ≤ f a := by
  induction as generalizing init with
  | nil => simp
  | cons a as ih => rw [List.foldl_cons, ih, Nat.le_min, List.forall_mem_cons, and_assoc]

variable {line : ℕ} {highlights : List Highlight}

/-- The lower bounds of the first highlighted line are those of all beginnings. -/
theorem le_firstLine_iff : bound ≤ firstLine line highlights ↔
    bound ≤ line ∧ ∀ a ∈ highlights, bound ≤ a.start.line :=
  le_foldl_min_iff

/-- The upper bounds of the last highlighted line are those of all ends. -/
theorem lastLine_le_iff : lastLine line highlights ≤ bound ↔
    line ≤ bound ∧ ∀ a ∈ highlights, a.stop.line ≤ bound :=
  foldl_max_le_iff

/-- No highlight begins before the first highlighted line. -/
theorem firstLine_le : firstLine line highlights ≤ line ∧
    ∀ a ∈ highlights, firstLine line highlights ≤ a.start.line :=
  le_firstLine_iff.mp le_rfl

/-- No highlight ends after the last highlighted line. -/
theorem le_lastLine : line ≤ lastLine line highlights ∧
    ∀ a ∈ highlights, a.stop.line ≤ lastLine line highlights :=
  lastLine_le_iff.mp le_rfl

end Extent

section Context

variable {lineCount first last n : ℕ} {options : Options} {highlights : List Highlight}

/-- A line is shown before gaps are filled if it is highlighted or in the context before the first
or after the last highlighted line. -/
theorem mem_contextLines_iff : n ∈ contextLines lineCount options highlights first last ↔
    (max 1 (min (first : ℤ) (first - options.previousLines)) ≤ n ∧
      (n : ℤ) ≤ max (last : ℤ) (min (lineCount : ℤ) (last + options.nextLines))) ∧
      (n < first ∨ last < n ∨ ∃ a ∈ highlights, a.covers n = true) := by
  simp only [contextLines, List.mem_filter, mem_interval, Bool.or_eq_true, decide_eq_true_eq,
    List.any_eq_true, or_assoc]
  refine and_congr_left fun _ => ?_
  omega

/-- The lines shown before gaps are filled ascend. -/
theorem pairwise_contextLines :
    (contextLines lineCount options highlights first last).Pairwise (· < ·) :=
  (pairwise_interval _ _).filter _

end Context

section Gaps

variable {middle : ℤ} {lines : List ℕ} {n : ℕ}

/-- Filling gaps keeps all lines. -/
theorem mem_fillGaps_of_mem (h : n ∈ lines) : n ∈ fillGaps middle lines := by
  induction lines using fillGaps.induct middle with
  | case1 => exact h
  | case2 line => exact h
  | case3 line next rest ih =>
    rw [fillGaps, List.cons_append, List.mem_cons, List.mem_append]
    rcases List.mem_cons.mp h with rfl | h
    · exact Or.inl rfl
    · exact Or.inr (Or.inr (ih h))

/-- A line that fills a gap lies strictly between two neighbours that are close enough. -/
theorem mem_fillGaps_iff : n ∈ fillGaps middle lines ↔ n ∈ lines ∨
    ∃ front p q back, lines = front ++ p :: q :: back ∧ p < n ∧ n < q ∧
      (q : ℤ) - p ≤ middle + 1 := by
  induction lines using fillGaps.induct middle with
  | case1 => simp [fillGaps]
  | case2 line =>
    simp only [fillGaps, List.mem_singleton, iff_self_or]
    rintro ⟨front, p, q, back, hlines, -⟩
    have hlength := congrArg List.length hlines
    simp only [List.length_append, List.length_cons, List.length_nil] at hlength
    omega
  | case3 line next rest ih =>
    rw [fillGaps, List.cons_append, List.mem_cons, List.mem_append, ih]
    constructor
    · rintro (rfl | hgap | hmem | ⟨front, p, q, back, hlines, hpq⟩)
      · exact Or.inl List.mem_cons_self
      · by_cases hclose : (next : ℤ) - line ≤ middle + 1
        · rw [if_pos hclose, mem_interval] at hgap
          exact Or.inr ⟨[], line, next, rest, rfl, by omega, by omega, hclose⟩
        · rw [if_neg hclose] at hgap
          simp at hgap
      · exact Or.inl (List.mem_cons_of_mem line hmem)
      · exact Or.inr ⟨line :: front, p, q, back, by rw [hlines, List.cons_append], hpq⟩
    · rintro (hmem | ⟨front, p, q, back, hlines, hp, hq, hclose⟩)
      · rcases List.mem_cons.mp hmem with rfl | hmem
        · exact Or.inl rfl
        · exact Or.inr (Or.inr (Or.inl hmem))
      · cases front with
        | nil =>
          obtain ⟨rfl, rfl, rfl⟩ : line = p ∧ next = q ∧ rest = back := by simpa using hlines
          rw [if_pos hclose, mem_interval]
          exact Or.inr (Or.inl (by omega))
        | cons head front =>
          obtain ⟨rfl, htail⟩ : line = head ∧ next :: rest = front ++ p :: q :: back := by
            simpa using hlines
          exact Or.inr (Or.inr (Or.inr ⟨front, p, q, back, htail, hp, hq, hclose⟩))

/-- Filling gaps in ascending lines leaves them ascending. -/
theorem pairwise_fillGaps (h : lines.Pairwise (· < ·)) :
    (fillGaps middle lines).Pairwise (· < ·) := by
  induction lines using fillGaps.induct middle with
  | case1 => exact h
  | case2 line => exact h
  | case3 line next rest ih =>
    obtain ⟨hline, hrest⟩ := List.pairwise_cons.mp h
    obtain ⟨hnext, -⟩ := List.pairwise_cons.mp hrest
    have hlower : ∀ m ∈ fillGaps middle (next :: rest), next ≤ m := by
      intro m hm
      rcases mem_fillGaps_iff.mp hm with hm | ⟨front, p, q, back, hlines, hp, -⟩
      · rcases List.mem_cons.mp hm with rfl | hm
        · exact le_rfl
        · exact (hnext m hm).le
      · have hmem : p ∈ next :: rest := by rw [hlines]; simp
        rcases List.mem_cons.mp hmem with rfl | hmem
        · omega
        · have := hnext p hmem
          omega
    have hstep := hline next List.mem_cons_self
    have hgap : ∀ m ∈ (if (next : ℤ) - line ≤ middle + 1 then interval (line + 1) (next - 1)
        else []), line < m ∧ m < next := by
      intro m hm
      split at hm
      · rw [mem_interval] at hm
        omega
      · simp at hm
    have hfilled : (if (next : ℤ) - line ≤ middle + 1 then interval (line + 1) (next - 1)
        else []).Pairwise (· < ·) := by
      split
      · exact pairwise_interval _ _
      · exact List.Pairwise.nil
    rw [fillGaps, List.cons_append, List.pairwise_cons, List.pairwise_append]
    refine ⟨fun m hm => ?_, hfilled, ih hrest, fun m hm k hk => ?_⟩
    · rcases List.mem_append.mp hm with hm | hm
      · exact (hgap m hm).1
      · have := hlower m hm
        omega
    · have hm' := hgap m hm
      have := hlower k hk
      omega

end Gaps

/-- The displayed lines are in ascending order, each once. -/
theorem pairwise_displayedLines (e : Excerpt) : e.displayedLines.Pairwise (· < ·) := by
  unfold displayedLines
  cases e.highlights with
  | nil => exact List.Pairwise.nil
  | cons a rest => exact pairwise_fillGaps pairwise_contextLines

/-- In ascending lines the last is at least as far down as any other. -/
theorem le_getLast?_of_pairwise {lines : List ℕ} {last n : ℕ} (hsorted : lines.Pairwise (· < ·))
    (hlast : lines.getLast? = some last) (hn : n ∈ lines) : n ≤ last := by
  obtain ⟨init, rfl⟩ := List.getLast?_eq_some_iff.mp hlast
  rcases List.mem_append.mp hn with hn | hn
  · exact ((List.pairwise_append.mp hsorted).2.2 n hn last (by simp)).le
  · exact (List.mem_singleton.mp hn).le

/-- Without highlights nothing is displayed. -/
theorem displayedLines_of_nil {e : Excerpt} (h : e.highlights = []) : e.displayedLines = [] := by
  rw [displayedLines, h]

/-- If something is displayed, something is highlighted. -/
theorem highlights_ne_nil_of_mem {e : Excerpt} {line : ℕ} (hline : line ∈ e.displayedLines) :
    e.highlights ≠ [] :=
  mt displayedLines_of_nil (List.ne_nil_of_mem hline)

/-- Every line of a highlight is displayed. -/
theorem Resolved.mem_displayedLines {e : Excerpt} (h : e.Resolved) {a : Highlight} {line : ℕ}
    (ha : a ∈ e.highlights) (hstart : a.start.line ≤ line) (hstop : line ≤ a.stop.line) :
    line ∈ e.displayedLines := by
  unfold displayedLines
  cases hcases : e.highlights with
  | nil => simp [hcases] at ha
  | cons b rest =>
    have hone : 1 ≤ firstLine b.start.line rest := by
      refine le_firstLine_iff.mpr ⟨(h.line_bounds (by simp [hcases])).1, fun c hc => ?_⟩
      exact (h.line_bounds (by simp [hcases, hc])).1
    have hfirst : firstLine b.start.line rest ≤ a.start.line := by
      rcases List.mem_cons.mp (hcases ▸ ha) with rfl | hmem
      · exact firstLine_le.1
      · exact firstLine_le.2 a hmem
    have hlast : a.stop.line ≤ lastLine b.stop.line rest := by
      rcases List.mem_cons.mp (hcases ▸ ha) with rfl | hmem
      · exact le_lastLine.1
      · exact le_lastLine.2 a hmem
    refine mem_fillGaps_of_mem (mem_contextLines_iff.mpr ⟨by omega, Or.inr (Or.inr ⟨a, ?_, ?_⟩)⟩)
    · rwa [← hcases]
    · simp [Highlight.covers, hstart, hstop]

/-- Only lines of the source are displayed. -/
theorem Resolved.displayedLines_bounds {e : Excerpt} (h : e.Resolved) {line : ℕ}
    (hline : line ∈ e.displayedLines) : 1 ≤ line ∧ line ≤ e.source.lineCount := by
  unfold displayedLines at hline
  cases hcases : e.highlights with
  | nil => simp [hcases] at hline
  | cons a rest =>
    rw [hcases] at hline
    have hlast : lastLine a.stop.line rest ≤ e.source.lineCount := by
      refine lastLine_le_iff.mpr ⟨(h.line_bounds (by simp [hcases])).2.2, fun b hb => ?_⟩
      exact (h.line_bounds (by simp [hcases, hb])).2.2
    have hcontext : ∀ n ∈ contextLines e.source.lineCount e.options (a :: rest)
        (firstLine a.start.line rest) (lastLine a.stop.line rest),
        1 ≤ n ∧ n ≤ e.source.lineCount := by
      intro n hn
      have hbounds := (mem_contextLines_iff.mp hn).1
      omega
    rcases mem_fillGaps_iff.mp hline with hmem | ⟨front, p, q, back, hlines, hp, hq, -⟩
    · exact hcontext line hmem
    · have hbelow := hcontext p (by rw [hlines]; simp)
      have habove := hcontext q (by rw [hlines]; simp)
      omega

/-- Something is displayed exactly if something is highlighted. -/
theorem Resolved.displayedLines_eq_nil_iff {e : Excerpt} (h : e.Resolved) :
    e.displayedLines = [] ↔ e.highlights = [] := by
  constructor
  · intro hnil
    by_contra hne
    obtain ⟨a, rest, hcases⟩ := List.exists_cons_of_ne_nil hne
    have ha : a ∈ e.highlights := by simp [hcases]
    have hmem := h.mem_displayedLines ha le_rfl (h.line_bounds ha).2.1
    simp [hnil] at hmem
  · exact displayedLines_of_nil

end Diagnostics.Excerpt
