import Diagnostics.Proofs.LaneStates
import Diagnostics.Proofs.Ranges

/-!
# Measures of ranges

A span that fits a source covers a piece of its text, and the characters of the piece decide the
shape of the highlight: it runs over several lines exactly if a line feed stands before its last
character, on one line it is as wide as the piece has characters, and over several lines it ends one
column behind the last character, on that character's line.
-/

namespace Diagnostics

namespace Position

/-- On one line, the column grows with each character. -/
theorem column_after_take {cs : List Char} {j m : ℕ} (hjm : j ≤ m) (hm : m ≤ cs.length)
    (hline : (after (cs.take m)).line = (after (cs.take j)).line) :
    (after (cs.take m)).column = (after (cs.take j)).column + (m - j) := by
  induction m with
  | zero =>
    obtain rfl : j = 0 := by omega
    rw [Nat.sub_self, Nat.add_zero]
  | succ m ih =>
    by_cases heq : j = m + 1
    · subst heq
      omega
    · have hstep := after_take_succ (show m < cs.length by omega)
      have hfirst : (after (cs.take j)).line ≤ (after (cs.take m)).line :=
        line_after_take_le (by omega)
      by_cases hfeed : cs[m] = '\n'
      · rw [hstep, advance, if_pos hfeed] at hline
        simp only at hline
        omega
      · rw [advance, if_neg hfeed] at hstep
        rw [hstep] at hline
        have hcolumn := ih (by omega) (by omega) hline
        rw [hstep]
        simp only
        omega

end Position

namespace Highlight.Over

variable {a : Highlight} {cs : List Char} {j k : ℕ}

/-- All characters of a range on one line are on that line. -/
theorem line_eq (h : a.Over cs j k) (hlane : a.multiline = false) {m : ℕ} (hjm : j ≤ m)
    (hmk : m < k) : (Position.after (cs.take m)).line = (Position.after (cs.take j)).line := by
  have hsame := Highlight.multiline_eq_false_iff.mp hlane
  rw [h.start_eq, h.stop_eq, stopOver, if_neg (by omega)] at hsame
  have hfirst : (Position.after (cs.take j)).line ≤ (Position.after (cs.take m)).line :=
    Position.line_after_take_le hjm
  have hlast : (Position.after (cs.take m)).line ≤ (Position.after (cs.take (k - 1))).line :=
    Position.line_after_take_le (by omega)
  simp only at hsame
  omega

/-- On one line, the characters of a range stand side by side. -/
theorem column_eq (h : a.Over cs j k) (hlane : a.multiline = false) {m : ℕ} (hjm : j ≤ m)
    (hmk : m < k) :
    (Position.after (cs.take m)).column = a.start.column + (m - j) := by
  have hbounded := h.bounded
  rw [h.start_eq]
  exact Position.column_after_take hjm (by omega) (h.line_eq hlane hjm hmk)

/-- On one line, the marker is as wide as the range has characters, and one column wide under an
empty range. -/
theorem width_eq (h : a.Over cs j k) (hlane : a.multiline = false) : a.width = max 1 (k - j) := by
  by_cases heq : j = k
  · have hstop : a.stop = a.start := by rw [h.stop_eq, stopOver, if_pos heq, h.start_eq, heq]
    rw [width, hstop]
    omega
  · have hordered := h.ordered
    have hlast := h.column_eq hlane (show j ≤ k - 1 by omega) (by omega)
    have hstop : a.stop.column = (Position.after (cs.take (k - 1))).column + 1 := by
      rw [h.stop_eq, stopOver, if_neg heq]
    rw [width, hstop]
    omega

end Highlight.Over

/-- A highlight measured by the text it lies over: the range stands between what is in front of it
and what is behind it. -/
structure Highlight.Measured (a : Highlight) (source : Source) (front range back : List Char) :
    Prop where
  split : source.chars = front ++ range ++ back
  start_offset : a.span.start = octetCount front
  stop_offset : a.span.stop = octetCount (front ++ range)
  /-- The highlight begins where the first end of the span lies. -/
  start_resolved : source.resolve a.span.start = .ok a.start
  line_le : a.start.line ≤ a.stop.line
  offset_eq : (a.stop.offset : ℤ) = a.span.stop
  /-- Only a line feed before the last character takes the range to another line. -/
  multiline_iff_feed : a.multiline = true ↔ '\n' ∈ range.dropLast
  /-- On one line the width counts the characters, a line feed at the end included. -/
  width_of_line : a.multiline = false → a.span.isEmpty = false → a.width = range.length
  empty : a.span.isEmpty = true → a.width = 1 ∧ a.start = a.stop
  /-- Over several lines the end is one column behind the last character. A line feed has the column
  after the text of its line. -/
  last_of_lines : a.multiline = true → ∃ last position text, range.getLast? = some last ∧
    source.resolve (octetCount (front ++ range.dropLast)) = .ok position ∧
    a.stop.line = position.line ∧ a.stop.column - 1 = position.column ∧ 1 ≤ a.stop.column - 1 ∧
    source.lineText a.stop.line = .ok text ∧ (last = '\n' → a.stop.column - 1 = text.length + 1)

namespace Highlight.Over

section Parts

variable {a : Highlight} {cs front range back : List Char} {j k : ℕ}

/-- A range of a text stands between two parts of it. -/
theorem exists_parts (h : a.Over cs j k) :
    ∃ front range back, cs = front ++ range ++ back ∧ j = front.length ∧
      k = (front ++ range).length := by
  have hjk := h.ordered
  have hk := h.bounded
  refine ⟨cs.take j, (cs.drop j).take (k - j), cs.drop k, ?_, ?_, ?_⟩
  · rw [← List.take_add, Nat.add_sub_cancel' hjk, List.take_append_drop]
  · rw [List.length_take]
    omega
  · rw [← List.take_add, Nat.add_sub_cancel' hjk, List.length_take]
    omega

/-- What stands in front of the last character of a range. -/
theorem take_before_last (hrange : range ≠ []) :
    (front ++ range ++ back).take ((front ++ range).length - 1) = front ++ range.dropLast := by
  rw [List.take_append_of_le_length (by omega), ← List.dropLast_eq_take,
    List.dropLast_append_of_ne_nil hrange]

variable (h : a.Over (front ++ range ++ back) front.length (front ++ range).length)
include h

/-- A range begins behind what is in front of it. -/
theorem start_eq_after : a.start = Position.after front := by
  rw [h.start_eq, List.append_assoc, List.take_left]

/-- A range ends behind itself. -/
theorem stop_offset_eq : a.span.stop = octetCount (front ++ range) := by
  rw [h.stop_offset, List.take_left]

/-- A range of characters ends one column behind the last of them. -/
theorem stop_eq_of_ne_nil (hrange : range ≠ []) :
    a.stop = ⟨(Position.after (front ++ range.dropLast)).line,
      (Position.after (front ++ range.dropLast)).column + 1, octetCount (front ++ range)⟩ := by
  have hlength : range.length ≠ 0 := mt List.length_eq_zero_iff.mp hrange
  rw [h.stop_eq, stopOver, if_neg (by rw [List.length_append]; omega), take_before_last hrange,
    List.take_left]

/-- A range without characters ends where it begins. -/
theorem stop_eq_start (hrange : range = []) : a.stop = a.start := by
  rw [h.stop_eq, stopOver, if_pos (by simp [hrange]), List.take_left, h.start_eq_after, hrange,
    List.append_nil]

/-- A span is empty exactly if its range has no characters. -/
theorem isEmpty_iff : a.span.isEmpty = true ↔ range = [] := by
  rw [Span.isEmpty, beq_iff_eq, h.stop_offset_eq, h.start_offset, List.append_assoc,
    List.take_left, octetCount_append, ← octetCount_eq_zero_iff]
  omega

/-- A range runs over several lines exactly if a line feed stands before its last character. -/
theorem multiline_iff_feed : a.multiline = true ↔ '\n' ∈ range.dropLast := by
  by_cases hrange : range = []
  · have hsame := h.stop_eq_start hrange
    simp [multiline, hsame, hrange]
  · rw [multiline_iff, h.start_eq_after, h.stop_eq_of_ne_nil hrange, ← List.count_pos_iff]
    simp only [Position.after, List.count_append]
    omega

/-- The last character of a range over several lines, with its position and the text of its line. -/
theorem exists_last (hlines : a.multiline = true) (source : Source)
    (hsource : source.chars = front ++ range ++ back) :
    ∃ last position text, range.getLast? = some last ∧
      source.resolve (octetCount (front ++ range.dropLast)) = .ok position ∧
      a.stop.line = position.line ∧ a.stop.column - 1 = position.column ∧
      1 ≤ a.stop.column - 1 ∧ source.lineText a.stop.line = .ok text ∧
      (last = '\n' → a.stop.column - 1 = text.length + 1) := by
  have hrange : range ≠ [] := by
    rintro rfl
    simp [h.multiline_iff_feed] at hlines
  have hlength : range.length ≠ 0 := mt List.length_eq_zero_iff.mp hrange
  have hbefore : source.chars.take ((front ++ range).length - 1) = front ++ range.dropLast := by
    rw [hsource, take_before_last hrange]
  have hresolved := source.resolve_octetCount_take ((front ++ range).length - 1)
  have hone := Position.one_le_column_after (front ++ range.dropLast)
  have hstop := h.stop_eq_of_ne_nil hrange
  rw [hbefore] at hresolved
  -- The line of the last character exists, since the character is on it.
  obtain ⟨hfirst, hcount⟩ :=
    Position.line_after_take_bounds source.chars ((front ++ range).length - 1)
  rw [hbefore] at hfirst hcount
  have htexts : ∃ text, source.lineText (Position.after (front ++ range.dropLast)).line =
      .ok text :=
    Source.exists_lineText_iff.mpr ⟨by omega, by rw [Source.lineCount_eq]; omega⟩
  obtain ⟨text, htext⟩ := htexts
  refine ⟨range.getLast hrange, _, text, List.getLast?_eq_some_getLast hrange, hresolved,
    by rw [hstop], by rw [hstop, Nat.add_sub_cancel], by rw [hstop, Nat.add_sub_cancel]; exact hone,
    by rw [hstop]; exact htext, fun hfeed => ?_⟩
  have hlast : (front ++ range).length - 1 < source.chars.length := by
    simp only [hsource, List.length_append]
    omega
  have hchar : source.chars[(front ++ range).length - 1] = '\n' := by
    simp only [hsource]
    rw [List.getElem_append_left (by rw [List.length_append]; omega),
      ← List.getLast_eq_getElem (by simp [hrange]), List.getLast_append_of_ne_nil _ hrange, hfeed]
  obtain ⟨fed, hfed, hcolumn⟩ := source.exists_lineText_of_feed hlast hchar
  rw [hbefore] at hfed hcolumn
  rw [htext, Except.ok.injEq] at hfed
  rw [hstop, Nat.add_sub_cancel, hfed, hcolumn]

end Parts

/-- A highlight over a range of a source is measured by the characters of the range. -/
theorem exists_measured {a : Highlight} {source : Source} {j k : ℕ}
    (h : a.Over source.chars j k) : ∃ front range back, a.Measured source front range back := by
  obtain ⟨front, range, back, hsplit, rfl, rfl⟩ := h.exists_parts
  have hover := h
  rw [hsplit] at hover
  refine ⟨front, range, back, hsplit, ?_, hover.stop_offset_eq, ?_, h.line_le, ?_,
    hover.multiline_iff_feed, fun hline hne => ?_, fun hempty => ?_,
    fun hlines => hover.exists_last hlines source hsplit⟩
  · rw [hover.start_offset, List.append_assoc, List.take_left]
  · rw [h.start_offset, source.resolve_octetCount_take, h.start_eq]
  · rw [hover.stop_offset, hover.stop_eq, stopOver]
    split <;> rfl
  · have hrange : range ≠ [] := fun hnil => by simp [hover.isEmpty_iff.mpr hnil] at hne
    have hlength : range.length ≠ 0 := mt List.length_eq_zero_iff.mp hrange
    rw [hover.width_eq hline, List.length_append]
    omega
  · have hsame := hover.stop_eq_start (hover.isEmpty_iff.mp hempty)
    exact ⟨by rw [width, hsame, Nat.sub_self, Nat.max_eq_left (Nat.zero_le 1)], hsame.symm⟩

end Highlight.Over

namespace Highlight

/-- Placing a span succeeds exactly if it fits, and is refused with the span itself otherwise. What
it is placed as begins at the position of the span's first end and is measured by the characters of
its range. -/
theorem resolve_measures_range (source : Source) (span : Span) :
    ((∃ a, resolve source span = .ok a) ↔ span.Fits source) ∧
    (¬span.Fits source → ∃ fault, resolve source span = .error (.invalidSpan span fault)) ∧
    (∀ a, resolve source span = .ok a →
      a.span = span ∧ ∃ front range back, a.Measured source front range back) := by
  refine ⟨exists_resolve_iff, resolve_eq_error_of_not_fits, fun a ha => ?_⟩
  obtain ⟨hspan, j, k, hover⟩ := exists_over_of_resolve ha
  exact ⟨hspan, hover.exists_measured⟩

/-- A range of two lines and the line feeds that end them stays on these lines, although it stops at
the beginning of an empty one. -/
theorem resolve_measures_range_fed :
    ∃ a, resolve ⟨"é\nab\n\nc"⟩ ⟨0, 6, none, none, none⟩ = .ok a ∧
      a.stop = ⟨2, 4, 6⟩ ∧
      ∃ front range back, a.Measured ⟨"é\nab\n\nc"⟩ front range back := by
  have hresolved : resolve ⟨"é\nab\n\nc"⟩ ⟨0, 6, none, none, none⟩ =
      .ok ⟨⟨0, 6, none, none, none⟩, ⟨1, 1, 0⟩, ⟨2, 4, 6⟩⟩ := by decide +kernel
  obtain ⟨-, -, hmeasured⟩ :=
    resolve_measures_range ⟨"é\nab\n\nc"⟩ ⟨0, 6, none, none, none⟩
  exact ⟨_, hresolved, rfl, (hmeasured _ hresolved).2⟩

end Highlight

end Diagnostics
