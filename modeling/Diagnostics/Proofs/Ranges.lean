import Diagnostics.Highlight
import Diagnostics.Proofs.Coordinates
import Diagnostics.Proofs.Results

/-!
# Ranges of characters

A span that fits a source covers a range of its characters. This file shows that placing the span
succeeds exactly then, and that the highlight begins at the first character of the range and ends
one column behind the last, also where the last is a line feed. An empty range ends where it
begins.
-/

namespace Diagnostics

/-- A span that can be placed on a source: its ends are in order, in the source, and each lies
behind some prefix of the characters. -/
structure Span.Fits (span : Span) (source : Source) : Prop where
  nonneg : 0 ≤ span.start
  ordered : span.start ≤ span.stop
  bounded : span.stop ≤ source.size
  /-- The first end lies between characters. -/
  start_between : ∃ j, span.start = octetCount (source.chars.take j)
  /-- The second end lies between characters. -/
  stop_between : ∃ k, span.stop = octetCount (source.chars.take k)

namespace Position

/-- A longer prefix ends on the same line or a later one. -/
theorem line_after_take_le {cs : List Char} {j k : ℕ} (hjk : j ≤ k) :
    (after (cs.take j)).line ≤ (after (cs.take k)).line := by
  have hcount : (cs.take j).count '\n' ≤ (cs.take k).count '\n' :=
    (List.take_sublist_take_left hjk).count_le '\n'
  simp only [after]
  omega

/-- A prefix ends on one of the lines of the text. -/
theorem line_after_take_bounds (cs : List Char) (k : ℕ) :
    1 ≤ (after (cs.take k)).line ∧ (after (cs.take k)).line ≤ 1 + cs.count '\n' := by
  have hcount := (List.take_sublist k cs).count_le '\n'
  simp only [after]
  omega

/-- Columns are counted from one. -/
theorem one_le_column_after (before : List Char) : 1 ≤ (after before).column := by
  simp only [after]
  omega

/-- Behind a prefix with one character more stands the position advanced over that character. -/
theorem after_take_succ {cs : List Char} {k : ℕ} (hk : k < cs.length) :
    after (cs.take (k + 1)) = (after (cs.take k)).advance cs[k] := by
  rw [advance_after, List.take_succ_eq_append_getElem hk]

end Position

/-- The text of a line that ends in a line feed has one character for each column before it. -/
theorem Source.exists_lineText_of_feed {source : Source} {last : ℕ}
    (hlast : last < source.chars.length) (hfeed : source.chars[last] = '\n') :
    ∃ text, source.lineText (Position.after (source.chars.take last)).line = .ok text ∧
      text.length + 1 = (Position.after (source.chars.take last)).column := by
  have hline := LineAt.of_cut (source.chars.take last) (source.chars.drop last)
  rw [List.take_append_drop, List.drop_eq_getElem_cons hlast, hfeed] at hline
  refine ⟨_, lineText_eq_ok hline, ?_⟩
  simp [Position.after, Nat.add_comm]

namespace Highlight

/-- The end of a highlight over the characters from number `j` up to number `k` of a text: one
column behind the last of them, on the last one's line. -/
def stopOver (cs : List Char) (j k : ℕ) : Position :=
  if j = k then Position.after (cs.take k) else
    ⟨(Position.after (cs.take (k - 1))).line, (Position.after (cs.take (k - 1))).column + 1,
      octetCount (cs.take k)⟩

/-- A highlight over the characters from number `j` up to number `k` of a text. -/
structure Over (a : Highlight) (cs : List Char) (j k : ℕ) : Prop where
  ordered : j ≤ k
  bounded : k ≤ cs.length
  start_offset : a.span.start = octetCount (cs.take j)
  stop_offset : a.span.stop = octetCount (cs.take k)
  start_eq : a.start = Position.after (cs.take j)
  stop_eq : a.stop = stopOver cs j k

section Settle

variable {source : Source} {span : Span} {j k : ℕ}

/-- Taking a range back from the beginning of a line leaves it one column behind its last
character; any other range already ends there. -/
theorem settleStop_eq_ok (hjk : j ≤ k) (hk : k ≤ source.chars.length)
    (hstart : span.start = octetCount (source.chars.take j))
    (hstop : span.stop = octetCount (source.chars.take k)) :
    settleStop source span (Position.after (source.chars.take j))
        (Position.after (source.chars.take k)) =
      .ok (stopOver source.chars j k) := by
  unfold stopOver
  by_cases heq : j = k
  · have hempty : ¬span.start < span.stop := by rw [hstart, hstop, heq]; omega
    rw [settleStop, if_neg fun h => hempty h.1, if_pos heq]
    rfl
  · obtain ⟨last, rfl⟩ : ∃ last, k = last + 1 := ⟨k - 1, by omega⟩
    have hlast : last < source.chars.length := by omega
    have hstep := Position.after_take_succ hlast
    have hoctets : octetCount (source.chars.take (last + 1)) =
        (Position.after (source.chars.take (last + 1))).offset := rfl
    rw [if_neg heq, Nat.add_sub_cancel, hoctets]
    by_cases hfeed : source.chars[last] = '\n'
    · have hstarted : span.start < span.stop := by
        rw [hstart, hstop]
        exact_mod_cast octetCount_take_lt (by omega) (by omega)
      have hlines : (Position.after (source.chars.take j)).line ≤
          (Position.after (source.chars.take last)).line := Position.line_after_take_le (by omega)
      obtain ⟨text, htext, hlength⟩ := source.exists_lineText_of_feed hlast hfeed
      have hprevious (line : ℕ) : ((line + 1 : ℕ) : ℤ) - 1 = line := by omega
      rw [hstep, hfeed, Position.advance, if_pos rfl, settleStop,
        if_pos ⟨hstarted, rfl, by simp only; omega⟩, ← hlength]
      simp only [hprevious, htext, bind, Except.bind, Nat.add_sub_cancel]
      rfl
    · have hcolumn := Position.one_le_column_after (source.chars.take last)
      rw [hstep, Position.advance, if_neg hfeed, settleStop, if_neg]
      · rfl
      · rintro ⟨-, hone, -⟩
        simp only at hone
        omega

end Settle

/-- A span whose ends lie between characters, in order, is placed over the characters between. -/
theorem exists_resolve_of_range {source : Source} {span : Span} {j k : ℕ} (hjk : j ≤ k)
    (hk : k ≤ source.chars.length) (hstart : span.start = octetCount (source.chars.take j))
    (hstop : span.stop = octetCount (source.chars.take k)) :
    ∃ a : Highlight, resolve source span = .ok a ∧ a.span = span ∧ a.Over source.chars j k := by
  have hordered : ¬span.stop < span.start := by
    have hmono := octetCount_take_le (source.chars.take k) j
    rw [List.take_take, Nat.min_eq_left hjk] at hmono
    omega
  have hbounded : ¬(span.start < 0 ∨ (source.size : ℤ) < span.stop) := by
    have hle := octetCount_take_le source.chars k
    unfold Source.size
    omega
  have hsettled := settleStop_eq_ok hjk hk hstart hstop
  refine ⟨⟨span, Position.after (source.chars.take j), stopOver source.chars j k⟩, ?_, rfl,
    hjk, hk, hstart, hstop, rfl, rfl⟩
  rw [resolve, if_neg hordered, if_neg hbounded]
  simp only [resolveEnd, hstart, hstop, Source.resolve_octetCount_take, bind, Except.bind,
    hsettled, pure, Except.pure]

/-- The characters of a span that fits: they begin and end at the ends of the span. -/
theorem exists_range_of_fits {source : Source} {span : Span} (h : span.Fits source) :
    ∃ j k, j ≤ k ∧ k ≤ source.chars.length ∧ span.start = octetCount (source.chars.take j) ∧
      span.stop = octetCount (source.chars.take k) := by
  obtain ⟨j, hj⟩ := h.start_between
  obtain ⟨k, hk⟩ := h.stop_between
  by_cases hjk : j ≤ k
  · refine ⟨min j source.chars.length, min k source.chars.length, by omega, by omega, ?_, ?_⟩
    · rw [hj, List.take_eq_take_min]
    · rw [hk, List.take_eq_take_min]
  · have hordered := h.ordered
    have hsame : source.chars.take j = source.chars.take k := by
      by_cases hlength : k < source.chars.length
      · have hlt := octetCount_take_lt (show k < j by omega) hlength
        omega
      · rw [List.take_of_length_le (by omega), List.take_of_length_le (by omega)]
    refine ⟨min k source.chars.length, min k source.chars.length, le_rfl, by omega, ?_, ?_⟩
    · rw [hj, hsame, ← List.take_eq_take_min]
    · rw [hk, ← List.take_eq_take_min]

/-- A span that does not fit is refused with a failure that carries it. -/
theorem resolve_eq_error_of_not_fits {source : Source} {span : Span} (h : ¬span.Fits source) :
    ∃ fault, resolve source span = .error (.invalidSpan span fault) := by
  by_cases hordered : span.stop < span.start
  · exact ⟨.startAfterEnd, by rw [resolve, if_pos hordered]; rfl⟩
  by_cases hbounded : span.start < 0 ∨ (source.size : ℤ) < span.stop
  · exact ⟨.outside source.size, by rw [resolve, if_neg hordered, if_pos hbounded]; rfl⟩
  rw [resolve, if_neg hordered, if_neg hbounded]
  cases hstart : source.resolve span.start with
  | error failure =>
    exact ⟨.insideCharacter span.start, by simp [resolveEnd, hstart, bind, Except.bind]⟩
  | ok start =>
    cases hstop : source.resolve span.stop with
    | error failure =>
      exact ⟨.insideCharacter span.stop, by simp [resolveEnd, hstart, hstop, bind, Except.bind]⟩
    | ok stop =>
      obtain ⟨j, hj, -⟩ := Source.resolve_eq_ok_iff.mp hstart
      obtain ⟨k, hk, -⟩ := Source.resolve_eq_ok_iff.mp hstop
      exact absurd ⟨by omega, by omega, by omega, ⟨j, hj⟩, ⟨k, hk⟩⟩ h

/-- Placing a span succeeds exactly when it fits the source. -/
theorem exists_resolve_iff {source : Source} {span : Span} :
    (∃ a, resolve source span = .ok a) ↔ span.Fits source := by
  constructor
  · rintro ⟨a, ha⟩
    by_contra hfits
    obtain ⟨fault, hfault⟩ := resolve_eq_error_of_not_fits hfits
    rw [hfault] at ha
    cases ha
  · intro hfits
    obtain ⟨j, k, hjk, hk, hstart, hstop⟩ := exists_range_of_fits hfits
    obtain ⟨a, ha, -⟩ := exists_resolve_of_range hjk hk hstart hstop
    exact ⟨a, ha⟩

/-- What a span is placed over: a range of characters of the source. -/
theorem exists_over_of_resolve {source : Source} {span : Span} {a : Highlight}
    (h : resolve source span = .ok a) : a.span = span ∧ ∃ j k, a.Over source.chars j k := by
  obtain ⟨j, k, hjk, hk, hstart, hstop⟩ := exists_range_of_fits (exists_resolve_iff.mp ⟨a, h⟩)
  obtain ⟨b, hb, hspan, hover⟩ := exists_resolve_of_range hjk hk hstart hstop
  rw [h, Except.ok.injEq] at hb
  subst hb
  exact ⟨hspan, j, k, hover⟩

namespace Over

variable {a : Highlight} {cs : List Char} {j k : ℕ}

/-- A range is at most as long as the lines from its first to its last. -/
theorem line_le (h : a.Over cs j k) : a.start.line ≤ a.stop.line := by
  rw [h.start_eq, h.stop_eq, stopOver]
  by_cases heq : j = k
  · rw [if_pos heq, heq]
  · rw [if_neg heq]
    exact Position.line_after_take_le (by have := h.ordered; omega)

/-- A range begins on the first line or later. -/
theorem one_le_line (h : a.Over cs j k) : 1 ≤ a.start.line := by
  rw [h.start_eq]
  exact (Position.line_after_take_bounds cs j).1

/-- A range ends on the last line or earlier. -/
theorem line_le_count (h : a.Over cs j k) : a.stop.line ≤ 1 + cs.count '\n' := by
  rw [h.stop_eq, stopOver]
  split
  · exact (Position.line_after_take_bounds cs k).2
  · exact (Position.line_after_take_bounds cs (k - 1)).2

/-- A range over several lines has characters, and the last of them is on its last line, one
column before its end. -/
theorem last_of_multiline (h : a.Over cs j k) (hlines : a.multiline = true) :
    j < k ∧ (Position.after (cs.take (k - 1))).line = a.stop.line ∧
      (Position.after (cs.take (k - 1))).column + 1 = a.stop.column := by
  have hne : j ≠ k := by
    intro heq
    have hstop := h.stop_eq
    rw [stopOver, if_pos heq, ← heq, ← h.start_eq] at hstop
    simp [multiline, hstop] at hlines
  have hstop := h.stop_eq
  rw [stopOver, if_neg hne] at hstop
  have hjk := h.ordered
  exact ⟨by omega, by rw [hstop], by rw [hstop]⟩

end Over

/-- Spans are placed one after another as highlights exactly if these are theirs, in their order,
and each is its own span placed on the source. -/
theorem mapM_resolve_eq_ok_iff {source : Source} {spans : List Span} {as : List Highlight} :
    spans.mapM (resolve source) = .ok as ↔
      as.map (·.span) = spans ∧ ∀ a ∈ as, resolve source a.span = .ok a := by
  rw [mapM_eq_ok_iff]
  constructor
  · intro h
    induction h with
    | nil => exact ⟨rfl, List.forall_mem_nil _⟩
    | cons hfirst hrest ih =>
      have hspan := (exists_over_of_resolve hfirst).1
      exact ⟨by rw [List.map_cons, hspan, ih.1],
        List.forall_mem_cons.mpr ⟨hspan ▸ hfirst, ih.2⟩⟩
  · rintro ⟨rfl, hplaced⟩
    rwa [List.forall₂_map_left_iff, List.forall₂_same]

/-- Spans that all fit are placed one after another: nothing is lost, and each highlight is its own
span placed on the source. -/
theorem exists_mapM_resolve_of_fits {source : Source} {spans : List Span}
    (h : ∀ span ∈ spans, span.Fits source) :
    ∃ as, spans.mapM (resolve source) = .ok as ∧ as.length = spans.length ∧
      ∀ a ∈ as, resolve source a.span = .ok a := by
  obtain ⟨as, has⟩ := exists_mapM_eq_ok_iff.mpr fun span hspan =>
    exists_resolve_iff.mpr (h span hspan)
  obtain ⟨hspans, hplaced⟩ := mapM_resolve_eq_ok_iff.mp has
  exact ⟨as, has, by rw [← hspans, List.length_map], hplaced⟩

/-- Placing spans fails at the first that does not fit, with the failure of that span. -/
theorem mapM_resolve_eq_error {source : Source} {front back : List Span} {span : Span}
    {failure : Failure} (hfront : ∀ s ∈ front, s.Fits source)
    (hspan : resolve source span = .error failure) :
    (front ++ span :: back).mapM (resolve source) = .error failure :=
  mapM_eq_error_iff.mpr
    ⟨front, span, back, rfl, fun s hs => exists_resolve_iff.mpr (hfront s hs), hspan⟩

/-- Spans that all fit are placed and put in order: nothing is lost, and each highlight is its own
span placed on the source. -/
theorem exists_resolveAll_of_fits {source : Source} {spans : List Span}
    (h : ∀ span ∈ spans, span.Fits source) :
    ∃ as, resolveAll source spans = .ok as ∧ as.length = spans.length ∧
      ∀ a ∈ as, resolve source a.span = .ok a := by
  obtain ⟨as, has, hlength, hplaced⟩ := exists_mapM_resolve_of_fits h
  have hperm : (as.mergeSort comesFirst).Perm as := List.mergeSort_perm as comesFirst
  refine ⟨as.mergeSort comesFirst, ?_, by rw [hperm.length_eq, hlength], ?_⟩
  · rw [resolveAll, has]
    rfl
  · intro a ha
    exact hplaced a (hperm.mem_iff.mp ha)

/-- What spans are placed as comes from these spans. -/
theorem span_mem_of_mapM_resolve {source : Source} {spans : List Span} {as : List Highlight}
    (h : spans.mapM (resolve source) = .ok as) {a : Highlight} (ha : a ∈ as) : a.span ∈ spans := by
  rw [← (mapM_resolve_eq_ok_iff.mp h).1]
  exact List.mem_map_of_mem ha

/-- What spans are placed together as comes from these spans. -/
theorem span_mem_of_resolveAll {source : Source} {spans : List Span} {as : List Highlight}
    (h : resolveAll source spans = .ok as) {a : Highlight} (ha : a ∈ as) : a.span ∈ spans := by
  rw [resolveAll] at h
  obtain ⟨bs, hplaced, h⟩ := exists_of_bind_eq_ok h
  obtain rfl : bs.mergeSort comesFirst = as := Except.ok.inj h
  exact span_mem_of_mapM_resolve hplaced (List.mem_mergeSort.mp ha)

/-- Placing spans is refused with the first that does not fit. -/
theorem resolveAll_eq_error {source : Source} {front : List Span} {span : Span} (back : List Span)
    (hfront : ∀ s ∈ front, s.Fits source) (hspan : ¬span.Fits source) :
    ∃ fault, resolveAll source (front ++ span :: back) = .error (.invalidSpan span fault) := by
  obtain ⟨fault, hfault⟩ := resolve_eq_error_of_not_fits hspan
  refine ⟨fault, ?_⟩
  rw [resolveAll, mapM_resolve_eq_error hfront hfault]
  rfl

end Highlight

end Diagnostics
