import Diagnostics.Proofs.DisplayedLines
import Mathlib.Order.Bounds.Basic

/-!
# The promised lines

Which lines an excerpt displays has a description as a set: the highlighted lines, the context
before the first and after the last of them, and the lines between two neighbouring highlighted
lines that are close enough. The context is joined to the highlighted lines without a gap, so gaps
are filled between highlighted lines only, and each gap that is left is too long to be filled.
Nothing is assumed here about the text that the highlights were placed on.
-/

namespace Diagnostics.Excerpt

/-- A line that a highlight runs over. -/
def Highlighted (e : Excerpt) (n : ℕ) : Prop :=
  ∃ a ∈ e.highlights, a.start.line ≤ n ∧ n ≤ a.stop.line

/-- All highlights run forward, from line one or later. They need not lie on the source. -/
def Forward (e : Excerpt) : Prop :=
  ∀ a ∈ e.highlights, 1 ≤ a.start.line ∧ a.start.line ≤ a.stop.line

instance (e : Excerpt) : Decidable e.Forward :=
  inferInstanceAs (Decidable (∀ a ∈ e.highlights, _))

/-- Two lines with a property between which no other line has it. -/
structure Neighbours (shown : ℕ → Prop) (p q : ℕ) : Prop where
  left : shown p
  right : shown q
  lt : p < q
  apart : ∀ m, p < m → m < q → ¬shown m

/-- In an ascending list, neighbours stand next to each other. -/
theorem neighbours_iff_split {lines : List ℕ} (h : lines.Pairwise (· < ·)) {p q : ℕ} :
    Neighbours (· ∈ lines) p q ↔ ∃ front back, lines = front ++ p :: q :: back := by
  constructor
  · rintro ⟨hp, hq, hlt, hapart⟩
    obtain ⟨front, rest, rfl⟩ := List.append_of_mem hp
    obtain ⟨-, hrest, hfront⟩ := List.pairwise_append.mp h
    obtain ⟨hbehind, hordered⟩ := List.pairwise_cons.mp hrest
    have hqrest : q ∈ rest := by
      rcases List.mem_append.mp hq with hq | hq
      · have := hfront q hq p List.mem_cons_self
        omega
      · exact (List.mem_cons.mp hq).resolve_left (by omega)
    obtain ⟨next, back, rfl⟩ := List.exists_cons_of_ne_nil (List.ne_nil_of_mem hqrest)
    rcases List.mem_cons.mp hqrest with rfl | hqback
    · exact ⟨front, back, rfl⟩
    · have hnext := (List.pairwise_cons.mp hordered).1 q hqback
      exact absurd (by simp) (hapart next (hbehind next List.mem_cons_self) hnext)
  · rintro ⟨front, back, rfl⟩
    obtain ⟨-, hrest, hfront⟩ := List.pairwise_append.mp h
    obtain ⟨hbehind, hordered⟩ := List.pairwise_cons.mp hrest
    refine ⟨by simp, by simp, hbehind q List.mem_cons_self, fun m hpm hmq hm => ?_⟩
    rcases List.mem_append.mp hm with hm | hm
    · have := hfront m hm p List.mem_cons_self
      omega
    · rcases List.mem_cons.mp hm with rfl | hm
      · omega
      · rcases List.mem_cons.mp hm with rfl | hm
        · omega
        · have := (List.pairwise_cons.mp hordered).1 m hm
          omega

section Extent

variable {highlights : List Highlight}

/-- The first highlighted line is the beginning of some highlight. -/
theorem firstLine_eq (line : ℕ) : firstLine line highlights = line ∨
    ∃ a ∈ highlights, firstLine line highlights = a.start.line := by
  by_contra! hne
  have hline : firstLine line highlights ≤ line ∧
      ∀ a ∈ highlights, firstLine line highlights ≤ a.start.line := firstLine_le
  have hbound : firstLine line highlights + 1 ≤ firstLine line highlights :=
    le_firstLine_iff.mpr ⟨by omega, fun a ha => by
      have := hline.2 a ha
      have := hne.2 a ha
      omega⟩
  omega

/-- The last highlighted line is the end of some highlight. -/
theorem lastLine_eq (line : ℕ) : lastLine line highlights = line ∨
    ∃ a ∈ highlights, lastLine line highlights = a.stop.line := by
  by_contra! hne
  have hline : line ≤ lastLine line highlights ∧
      ∀ a ∈ highlights, a.stop.line ≤ lastLine line highlights := le_lastLine
  have hbound : lastLine line highlights ≤ lastLine line highlights - 1 :=
    lastLine_le_iff.mpr ⟨by omega, fun a ha => by
      have := hline.2 a ha
      have := hne.2 a ha
      omega⟩
  omega

variable {e : Excerpt} {a : Highlight}

/-- Of highlights that run forward, the first and the last line are highlighted, and all highlighted
lines are between them. -/
theorem Forward.isLeast_isGreatest (h : e.Forward) (hcases : e.highlights = a :: highlights) :
    IsLeast {n | e.Highlighted n} (firstLine a.start.line highlights) ∧
      IsGreatest {n | e.Highlighted n} (lastLine a.stop.line highlights) := by
  have hmem : ∀ b ∈ e.highlights, b = a ∨ b ∈ highlights := by simp [hcases]
  have hhighlighted : ∀ b ∈ e.highlights, e.Highlighted b.start.line ∧ e.Highlighted b.stop.line :=
    fun b hb => ⟨⟨b, hb, le_rfl, (h b hb).2⟩, ⟨b, hb, (h b hb).2, le_rfl⟩⟩
  refine ⟨⟨?_, ?_⟩, ⟨?_, ?_⟩⟩
  · rcases firstLine_eq a.start.line with heq | ⟨b, hb, heq⟩
    · rw [heq]
      exact (hhighlighted a (by simp [hcases])).1
    · rw [heq]
      exact (hhighlighted b (by simp [hcases, hb])).1
  · rintro n ⟨b, hb, hstart, -⟩
    rcases hmem b hb with rfl | hb
    · exact firstLine_le.1.trans hstart
    · exact (firstLine_le.2 b hb).trans hstart
  · rcases lastLine_eq a.stop.line with heq | ⟨b, hb, heq⟩
    · rw [heq]
      exact (hhighlighted a (by simp [hcases])).2
    · rw [heq]
      exact (hhighlighted b (by simp [hcases, hb])).2
  · rintro n ⟨b, hb, -, hstop⟩
    rcases hmem b hb with rfl | hb
    · exact hstop.trans le_lastLine.1
    · exact hstop.trans (le_lastLine.2 b hb)

/-- If something is highlighted, one highlighted line is the first and one is the last. -/
theorem Forward.exists_extent (h : e.Forward) (hne : e.highlights ≠ []) :
    ∃ first last, IsLeast {n | e.Highlighted n} first ∧ IsGreatest {n | e.Highlighted n} last := by
  obtain ⟨a, rest, hcases⟩ := List.exists_cons_of_ne_nil hne
  exact ⟨_, _, h.isLeast_isGreatest hcases⟩

end Extent

/-- The lines shown before gaps are filled, for the first and the last highlighted line. -/
def around (e : Excerpt) (first last : ℕ) : List ℕ :=
  contextLines e.source.lineCount e.options e.highlights first last

section Around

variable {e : Excerpt} {first last n p q : ℕ}

/-- Highlights that run forward begin no earlier than line one. -/
theorem Forward.one_le (h : e.Forward) (hn : e.Highlighted n) : 1 ≤ n := by
  obtain ⟨a, ha, hstart, -⟩ := hn
  exact (h a ha).1.trans hstart

/-- Before gaps are filled, the highlighted lines and the context around them are shown. -/
theorem mem_around_iff (h : e.Forward) (hfirst : IsLeast {n | e.Highlighted n} first)
    (hlast : IsGreatest {n | e.Highlighted n} last) : n ∈ e.around first last ↔
      e.Highlighted n ∨
      (max 1 ((first : ℤ) - e.options.previousLines) ≤ n ∧ n < first) ∨
      (last < n ∧ (n : ℤ) ≤ min (e.source.lineCount : ℤ) (last + e.options.nextLines)) := by
  have hone : 1 ≤ first := h.one_le hfirst.1
  have hbetween : e.Highlighted n → first ≤ n ∧ n ≤ last := fun hn => ⟨hfirst.2 hn, hlast.2 hn⟩
  have hordered : first ≤ last := hfirst.2 hlast.1
  have hcovers : (∃ a ∈ e.highlights, a.covers n = true) ↔ e.Highlighted n := by
    simp only [Highlight.covers, Bool.and_eq_true, decide_eq_true_eq, Highlighted]
  rw [around, mem_contextLines_iff, hcovers]
  constructor
  · rintro ⟨hrange, hbefore | hafter | hn⟩
    · exact Or.inr (Or.inl (by omega))
    · exact Or.inr (Or.inr (by omega))
    · exact Or.inl hn
  · rintro (hn | hbefore | hafter)
    · have := hbetween hn
      exact ⟨by omega, Or.inr (Or.inr hn)⟩
    · exact ⟨by omega, Or.inl hbefore.2⟩
    · exact ⟨by omega, Or.inr (Or.inl hafter.1)⟩

/-- The context is joined to the highlighted lines, so lines are left out between highlighted lines
only. -/
theorem neighbours_around_iff (h : e.Forward) (hfirst : IsLeast {n | e.Highlighted n} first)
    (hlast : IsGreatest {n | e.Highlighted n} last) (hgap : p + 1 < q) :
    Neighbours (· ∈ e.around first last) p q ↔ Neighbours e.Highlighted p q := by
  have hmem := fun n => mem_around_iff (n := n) h hfirst hlast
  have hordered : first ≤ last := hfirst.2 hlast.1
  constructor
  · rintro ⟨hp, hq, hlt, hapart⟩
    have hnext := mt (hmem (p + 1)).mpr (hapart (p + 1) (by omega) hgap)
    have hprevious := mt (hmem (q - 1)).mpr (hapart (q - 1) (by omega) (by omega))
    -- A line of the context has a shown line beside it, on the side of the highlighted lines.
    have hpHighlighted : e.Highlighted p := by
      rcases (hmem p).mp hp with hp | hbefore | hafter
      · exact hp
      · by_cases hends : p + 1 = first
        · exact absurd (Or.inl (hends ▸ hfirst.1)) hnext
        · exact absurd (Or.inr (Or.inl (by omega))) hnext
      · rcases (hmem q).mp hq with hq | hbefore | hafter'
        · have := hlast.2 hq
          omega
        · omega
        · exact absurd (Or.inr (Or.inr (by omega))) hnext
    have hqHighlighted : e.Highlighted q := by
      have hfirstp := hfirst.2 hpHighlighted
      rcases (hmem q).mp hq with hq | hbefore | hafter
      · exact hq
      · omega
      · by_cases hbegins : q - 1 = last
        · exact absurd (Or.inl (hbegins ▸ hlast.1)) hprevious
        · exact absurd (Or.inr (Or.inr (by omega))) hprevious
    exact ⟨hpHighlighted, hqHighlighted, hlt,
      fun m hpm hmq hm => hapart m hpm hmq ((hmem m).mpr (Or.inl hm))⟩
  · rintro ⟨hp, hq, hlt, hapart⟩
    refine ⟨(hmem p).mpr (Or.inl hp), (hmem q).mpr (Or.inl hq), hlt, fun m hpm hmq hm => ?_⟩
    have hfirstp := hfirst.2 hp
    have hlastq := hlast.2 hq
    rcases (hmem m).mp hm with hm | hbefore | hafter
    · exact hapart m hpm hmq hm
    · omega
    · omega

/-- The displayed lines are those around the highlighted ones and those in gaps that are short
enough. -/
theorem displayedLines_eq (h : e.Forward) (hfirst : IsLeast {n | e.Highlighted n} first)
    (hlast : IsGreatest {n | e.Highlighted n} last) :
    e.displayedLines = fillGaps e.options.middleLines (e.around first last) := by
  obtain ⟨a, ha, -⟩ := hfirst.1
  obtain ⟨b, rest, hcases⟩ := List.exists_cons_of_ne_nil (List.ne_nil_of_mem ha)
  obtain ⟨hleast, hgreatest⟩ := h.isLeast_isGreatest hcases
  rw [displayedLines, hcases]
  simp only [hleast.unique hfirst, hgreatest.unique hlast, around, hcases]

/-- A line is displayed exactly if it is around the highlighted ones or in a gap between two of
them that is short enough. -/
theorem mem_displayedLines_iff (h : e.Forward) (hfirst : IsLeast {n | e.Highlighted n} first)
    (hlast : IsGreatest {n | e.Highlighted n} last) : n ∈ e.displayedLines ↔
      n ∈ e.around first last ∨ ∃ p q, Neighbours e.Highlighted p q ∧ p < n ∧ n < q ∧
        (q : ℤ) - p - 1 ≤ e.options.middleLines := by
  rw [displayedLines_eq h hfirst hlast, mem_fillGaps_iff]
  refine or_congr_right ⟨?_, ?_⟩
  · rintro ⟨front, p, q, back, hlines, hp, hq, hclose⟩
    have hneighbours := (neighbours_iff_split pairwise_contextLines).mpr ⟨front, back, hlines⟩
    exact ⟨p, q, (neighbours_around_iff h hfirst hlast (by omega)).mp hneighbours, hp, hq,
      by omega⟩
  · rintro ⟨p, q, hneighbours, hp, hq, hclose⟩
    have hsplit := (neighbours_around_iff h hfirst hlast (by omega)).mpr hneighbours
    obtain ⟨front, back, hlines⟩ := (neighbours_iff_split pairwise_contextLines).mp hsplit
    exact ⟨front, p, q, back, hlines, hp, hq, by omega⟩

/-- Highlighted lines are displayed. -/
theorem Forward.mem_displayedLines (h : e.Forward) (hn : e.Highlighted n) :
    n ∈ e.displayedLines := by
  obtain ⟨a, ha, -⟩ := id hn
  obtain ⟨first, last, hfirst, hlast⟩ := h.exists_extent (List.ne_nil_of_mem ha)
  exact (mem_displayedLines_iff h hfirst hlast).mpr
    (Or.inl ((mem_around_iff h hfirst hlast).mpr (Or.inl hn)))

/-- Displayed lines are counted from one. -/
theorem Forward.one_le_of_mem_displayedLines (h : e.Forward) (hn : n ∈ e.displayedLines) :
    1 ≤ n := by
  obtain ⟨first, last, hfirst, hlast⟩ := h.exists_extent (highlights_ne_nil_of_mem hn)
  rcases (mem_displayedLines_iff h hfirst hlast).mp hn with hn | ⟨p, q, -, hp, -⟩
  · rcases (mem_around_iff h hfirst hlast).mp hn with hn | hbefore | hafter
    · exact h.one_le hn
    · omega
    · omega
  · omega

/-- A gap that is left lies between two highlighted lines and is too long to be filled. -/
theorem gap_of_neighbours (h : e.Forward) (hfirst : IsLeast {n | e.Highlighted n} first)
    (hlast : IsGreatest {n | e.Highlighted n} last)
    (hneighbours : Neighbours (· ∈ e.displayedLines) p q) (hgap : p + 1 < q) :
    max 0 e.options.middleLines < (q : ℤ) - p - 1 ∧ e.Highlighted p ∧ e.Highlighted q := by
  have hmem := fun n => mem_displayedLines_iff (n := n) h hfirst hlast
  obtain ⟨hp, hq, hlt, hapart⟩ := hneighbours
  have hnext := mt (hmem (p + 1)).mpr (hapart (p + 1) (by omega) hgap)
  have hprevious := mt (hmem (q - 1)).mpr (hapart (q - 1) (by omega) (by omega))
  have haround : ∀ m, e.Highlighted m → m ∈ e.around first last := fun m hm =>
    (mem_around_iff h hfirst hlast).mpr (Or.inl hm)
  -- A line that fills a gap has displayed lines on both sides.
  have hpAround : p ∈ e.around first last := by
    rcases (hmem p).mp hp with hp | ⟨p', q', hfilled, hp', hq', hclose⟩
    · exact hp
    · by_cases hends : p + 1 = q'
      · exact absurd (Or.inl (haround _ (hends ▸ hfilled.right))) hnext
      · exact absurd (Or.inr ⟨p', q', hfilled, by omega, by omega, hclose⟩) hnext
  have hqAround : q ∈ e.around first last := by
    rcases (hmem q).mp hq with hq | ⟨p', q', hfilled, hp', hq', hclose⟩
    · exact hq
    · by_cases hbegins : q - 1 = p'
      · exact absurd (Or.inl (haround _ (hbegins ▸ hfilled.left))) hprevious
      · exact absurd (Or.inr ⟨p', q', hfilled, by omega, by omega, hclose⟩) hprevious
  have hunfilled : Neighbours e.Highlighted p q :=
    (neighbours_around_iff h hfirst hlast hgap).mp ⟨hpAround, hqAround, hlt,
      fun m hpm hmq hm => hapart m hpm hmq ((hmem m).mpr (Or.inl hm))⟩
  have hlong : ¬(q : ℤ) - p - 1 ≤ e.options.middleLines := fun hclose =>
    hnext (Or.inr ⟨p, q, hunfilled, by omega, hgap, hclose⟩)
  exact ⟨by omega, hunfilled.left, hunfilled.right⟩

/-- If the highlighted lines are lines of the source, so are all displayed lines. -/
theorem displayedLines_bounds_of_forward (h : e.Forward)
    (hfirst : IsLeast {n | e.Highlighted n} first) (hlast : IsGreatest {n | e.Highlighted n} last)
    (hcount : ∀ a ∈ e.highlights, a.stop.line ≤ e.source.lineCount) (hn : n ∈ e.displayedLines) :
    1 ≤ n ∧ n ≤ e.source.lineCount := by
  have hhighlighted : ∀ m, e.Highlighted m → 1 ≤ m ∧ m ≤ e.source.lineCount := by
    rintro m ⟨a, ha, hstart, hstop⟩
    exact ⟨(h a ha).1.trans hstart, hstop.trans (hcount a ha)⟩
  have hone := (hhighlighted first hfirst.1).2
  rcases (mem_displayedLines_iff h hfirst hlast).mp hn with hn | ⟨p, q, hneighbours, hp, hq, -⟩
  · rcases (mem_around_iff h hfirst hlast).mp hn with hn | hbefore | hafter
    · exact hhighlighted n hn
    · omega
    · omega
  · have := hhighlighted q hneighbours.right
    omega

end Around

/-- An excerpt displays exactly the promised lines, in ascending order: the highlighted lines, the
context before the first and after the last of them as far as the source reaches, and the lines of
gaps between neighbouring highlighted lines that are not longer than the options allow. It displays
none exactly if nothing is highlighted. So no line outside the source is displayed unless one is
highlighted, and between two displayed lines in a row either no line is left out or more lines than
the options allow, and both are highlighted. -/
theorem displayedLines_as_promised {e : Excerpt} (h : e.Forward) :
    e.displayedLines.Pairwise (· < ·) ∧
    (e.displayedLines = [] ↔ e.highlights = []) ∧
    (e.highlights ≠ [] → ∃ first last, IsLeast {n | e.Highlighted n} first ∧
      IsGreatest {n | e.Highlighted n} last) ∧
    (∀ first last, IsLeast {n | e.Highlighted n} first → IsGreatest {n | e.Highlighted n} last →
      ∀ n, n ∈ e.displayedLines ↔
        e.Highlighted n ∨
        (max 1 ((first : ℤ) - e.options.previousLines) ≤ n ∧ n < first) ∨
        (last < n ∧ (n : ℤ) ≤ min (e.source.lineCount : ℤ) (last + e.options.nextLines)) ∨
        ∃ p q, Neighbours e.Highlighted p q ∧ p < n ∧ n < q ∧
          (q : ℤ) - p - 1 ≤ e.options.middleLines) ∧
    ((∀ a ∈ e.highlights, a.stop.line ≤ e.source.lineCount) →
      ∀ n ∈ e.displayedLines, 1 ≤ n ∧ n ≤ e.source.lineCount) ∧
    (∀ (front : List ℕ) (p q : ℕ) (back : List ℕ), e.displayedLines = front ++ p :: q :: back →
      q = p + 1 ∨
        (max 0 e.options.middleLines < (q : ℤ) - p - 1 ∧ e.Highlighted p ∧ e.Highlighted q)) := by
  refine ⟨e.pairwise_displayedLines, ⟨fun hnone => ?_, displayedLines_of_nil⟩, h.exists_extent,
    fun first last hfirst hlast n => ?_, fun hcount n hn => ?_, fun front p q back hlines => ?_⟩
  · by_contra hsome
    obtain ⟨first, last, hfirst, -⟩ := h.exists_extent hsome
    have hshown := h.mem_displayedLines hfirst.1
    rw [hnone] at hshown
    exact List.not_mem_nil hshown
  · rw [mem_displayedLines_iff h hfirst hlast, mem_around_iff h hfirst hlast, or_assoc, or_assoc]
  · obtain ⟨first, last, hfirst, hlast⟩ := h.exists_extent (highlights_ne_nil_of_mem hn)
    exact displayedLines_bounds_of_forward h hfirst hlast hcount hn
  · have hp : p ∈ e.displayedLines := by rw [hlines]; simp
    obtain ⟨first, last, hfirst, hlast⟩ := h.exists_extent (highlights_ne_nil_of_mem hp)
    have hneighbours := (neighbours_iff_split e.pairwise_displayedLines).mpr ⟨front, back, hlines⟩
    by_cases hnext : q = p + 1
    · exact Or.inl hnext
    · have hlt := hneighbours.lt
      exact Or.inr (gap_of_neighbours h hfirst hlast hneighbours (by omega))

/-- Three highlights out of order, the last of which is not on the source. -/
def scattered : Excerpt where
  source := ⟨"1\n2\n3\n4\n5\n6\n7"⟩
  highlights := [⟨⟨10, 11, none, none, none⟩, ⟨6, 1, 10⟩, ⟨6, 2, 11⟩⟩,
    ⟨⟨2, 5, none, none, none⟩, ⟨2, 1, 2⟩, ⟨3, 2, 5⟩⟩,
    ⟨⟨18, 19, none, none, none⟩, ⟨10, 1, 18⟩, ⟨10, 2, 19⟩⟩]
  options := { previousLines := 5, nextLines := 2, middleLines := 2 }

/-- The gap of two lines is filled and the gap of three is left, and there is no context after a
line that is not on the source. -/
theorem displayedLines_as_promised_scattered :
    scattered.Forward ∧ scattered.displayedLines = [1, 2, 3, 4, 5, 6, 10] ∧
      scattered.Highlighted 6 ∧ scattered.Highlighted 10 := by
  have hforward : scattered.Forward := by decide
  have hlines : scattered.displayedLines = [1, 2, 3, 4, 5, 6, 10] := by decide
  obtain ⟨-, -, -, -, -, hgaps⟩ := displayedLines_as_promised hforward
  obtain habsurd | ⟨-, hsix, hten⟩ := hgaps [1, 2, 3, 4, 5] 6 10 [] hlines
  · cases habsurd
  · exact ⟨hforward, hlines, hsix, hten⟩

end Diagnostics.Excerpt
