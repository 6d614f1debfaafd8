import Diagnostics.Block.Code
import Diagnostics.Proofs.Picture

/-!
# Making code blocks

Everything a code block needs is checked when it is made. This file says exactly when that succeeds
and which of several faults is reported, and shows that the excerpt of a code block can always be
drawn.
-/

namespace Diagnostics

namespace Highlight

/-- Of some spans that do not all fit, one is the first. -/
theorem exists_first_not_fits {source : Source} {spans : List Span}
    (h : ¬∀ span ∈ spans, span.Fits source) :
    ∃ front span back, spans = front ++ span :: back ∧ (∀ s ∈ front, s.Fits source) ∧
      ¬span.Fits source := by
  induction spans with
  | nil => exact absurd (by simp) h
  | cons span spans ih =>
    by_cases hspan : span.Fits source
    · have hrest : ¬∀ s ∈ spans, s.Fits source := by
        intro hall
        apply h
        intro s hs
        rcases List.mem_cons.mp hs with rfl | hs
        · exact hspan
        · exact hall s hs
      obtain ⟨front, s, back, rfl, hfront, hs⟩ := ih hrest
      refine ⟨span :: front, s, back, rfl, fun t ht => ?_, hs⟩
      rcases List.mem_cons.mp ht with rfl | ht
      · exact hspan
      · exact hfront t ht
    · exact ⟨[], span, spans, rfl, by simp, hspan⟩

/-- Spans are placed together exactly when they all fit. -/
theorem exists_resolveAll_iff {source : Source} {spans : List Span} :
    (∃ as, resolveAll source spans = .ok as) ↔ ∀ span ∈ spans, span.Fits source := by
  constructor
  · rintro ⟨as, has⟩
    by_contra hfits
    obtain ⟨front, span, back, rfl, hfront, hspan⟩ := exists_first_not_fits hfits
    obtain ⟨fault, hfault⟩ := resolveAll_eq_error back hfront hspan
    rw [hfault] at has
    cases has
  · intro hfits
    obtain ⟨as, has, -⟩ := exists_resolveAll_of_fits hfits
    exact ⟨as, has⟩

/-- If spans are not placed together, one of them is refused. -/
theorem exists_invalidSpan_of_resolveAll {source : Source} {spans : List Span} {failure : Failure}
    (h : resolveAll source spans = .error failure) :
    ∃ span fault, failure = .invalidSpan span fault := by
  by_cases hfits : ∀ span ∈ spans, span.Fits source
  · obtain ⟨as, has⟩ := exists_resolveAll_iff.mpr hfits
    rw [has] at h
    cases h
  · obtain ⟨front, span, back, rfl, hfront, hspan⟩ := exists_first_not_fits hfits
    obtain ⟨fault, hfault⟩ := resolveAll_eq_error back hfront hspan
    rw [hfault] at h
    exact ⟨span, fault, (Except.error.inj h).symm⟩

/-- What spans are placed together as: one highlight for each, its own span placed. -/
theorem resolved_of_resolveAll {source : Source} {spans : List Span} {as : List Highlight}
    (h : resolveAll source spans = .ok as) :
    as.length = spans.length ∧ ∀ a ∈ as, resolve source a.span = .ok a := by
  obtain ⟨bs, hbs, hlength, hplaced⟩ :=
    exists_resolveAll_of_fits (exists_resolveAll_iff.mp ⟨as, h⟩)
  rw [h, Except.ok.injEq] at hbs
  subst hbs
  exact ⟨hlength, hplaced⟩

end Highlight

namespace Excerpt.Options

/-- Where no counts are given, none is negative. -/
theorem nonnegative_default : ({} : Options).Nonnegative :=
  ⟨by decide, by decide, by decide⟩

/-- No count is reported as negative exactly when none is. -/
theorem negativeCount?_eq_none_iff {options : Options} :
    options.negativeCount? = none ↔ options.Nonnegative := by
  refine ⟨nonnegative_of_negativeCount?_eq_none, ?_⟩
  rintro ⟨hprevious, hnext, hmiddle⟩
  rw [negativeCount?, if_neg (by omega), if_neg (by omega), if_neg (by omega)]

end Excerpt.Options

namespace Code

section Make

variable {source : Source} {spans : List Span} {options : Excerpt.Options}

/-- A negative count is reported before anything else. -/
theorem make_of_negativeCount {count : ContextCount}
    (hcount : options.negativeCount? = some count) :
    make source spans options = .error (.negativeCount count) := by
  unfold make
  split <;> simp_all

/-- With sound counts, an empty source is reported before the spans are looked at. -/
theorem make_of_empty (hcounts : options.Nonnegative) (htext : source.text = "") :
    make source spans options = .error .emptySource := by
  have hnone := Excerpt.Options.negativeCount?_eq_none_iff.mpr hcounts
  unfold make
  split
  · simp_all
  · rw [dif_pos htext]

/-- With sound counts and a source, a failure to place the spans is passed on. -/
theorem make_of_resolveAll_error {failure : Failure} (hcounts : options.Nonnegative)
    (htext : source.text ≠ "") (hspans : Highlight.resolveAll source spans = .error failure) :
    make source spans options = .error failure := by
  have hnone := Excerpt.Options.negativeCount?_eq_none_iff.mpr hcounts
  unfold make
  split
  · simp_all
  · rw [dif_neg htext]
    split <;> simp_all

/-- With sound counts, a source and spans that are placed, it is left to look whether a line is
displayed. -/
theorem make_of_resolveAll_ok {as : List Highlight} (hcounts : options.Nonnegative)
    (htext : source.text ≠ "") (hspans : Highlight.resolveAll source spans = .ok as) :
    make source spans options =
      if hlines : (Excerpt.mk source as options).displayedLines = [] then
        .error .nothingHighlighted
      else .ok ⟨source, spans, options, as, hspans, hcounts, htext, hlines⟩ := by
  have hnone := Excerpt.Options.negativeCount?_eq_none_iff.mpr hcounts
  unfold make
  split
  · simp_all
  · rw [dif_neg htext]
    split
    · simp_all
    · rename_i bs hbs
      obtain rfl : bs = as := Except.ok.inj (hbs.symm.trans hspans)
      rfl

/-- With sound counts and a source, the first span that does not fit is reported. -/
theorem make_of_not_fits {front : List Span} {span : Span} (back : List Span)
    (hcounts : options.Nonnegative) (htext : source.text ≠ "")
    (hfront : ∀ s ∈ front, s.Fits source) (hspan : ¬span.Fits source) :
    ∃ fault, make source (front ++ span :: back) options = .error (.invalidSpan span fault) := by
  obtain ⟨fault, hfault⟩ := Highlight.resolveAll_eq_error back hfront hspan
  exact ⟨fault, make_of_resolveAll_error hcounts htext hfault⟩

/-- With nothing else at fault, a block without spans is reported. -/
theorem make_of_nil (hcounts : options.Nonnegative) (htext : source.text ≠ "") :
    make source [] options = .error .nothingHighlighted := by
  have hplaced : Highlight.resolveAll source [] = .ok [] := by
    simp [Highlight.resolveAll, pure, Except.pure, bind, Except.bind]
  rw [make_of_resolveAll_ok hcounts htext hplaced, dif_pos (Excerpt.displayedLines_of_nil rfl)]

/-- With nothing at fault the block is made, and it holds what it was made from. -/
theorem exists_make_of_fits (hcounts : options.Nonnegative) (htext : source.text ≠ "")
    (hne : spans ≠ []) (hfits : ∀ span ∈ spans, span.Fits source) :
    ∃ code, make source spans options = .ok code ∧ code.source = source ∧ code.spans = spans ∧
      code.options = options := by
  obtain ⟨as, has⟩ := Highlight.exists_resolveAll_iff.mpr hfits
  obtain ⟨hlength, hplaced⟩ := Highlight.resolved_of_resolveAll has
  have hlines : (Excerpt.mk source as options).displayedLines ≠ [] := by
    have hresolved : (Excerpt.mk source as options).Resolved := hplaced
    rw [Ne, hresolved.displayedLines_eq_nil_iff, ← List.length_eq_zero_iff, hlength,
      List.length_eq_zero_iff]
    exact hne
  rw [make_of_resolveAll_ok hcounts htext has, dif_neg hlines]
  exact ⟨_, rfl, rfl, rfl, rfl⟩

/-- A code block can be made exactly from sound counts, a source with a text, and at least one span
such that all spans fit. -/
theorem exists_make_iff : (∃ code, make source spans options = .ok code) ↔
    options.Nonnegative ∧ source.text ≠ "" ∧ spans ≠ [] ∧ ∀ span ∈ spans, span.Fits source := by
  constructor
  · rintro ⟨code, hcode⟩
    have hcounts : options.Nonnegative := by
      cases hcount : options.negativeCount? with
      | none => exact Excerpt.Options.negativeCount?_eq_none_iff.mp hcount
      | some count =>
        rw [make_of_negativeCount hcount] at hcode
        cases hcode
    have htext : source.text ≠ "" := by
      intro htext
      rw [make_of_empty hcounts htext] at hcode
      cases hcode
    have hne : spans ≠ [] := by
      rintro rfl
      rw [make_of_nil hcounts htext] at hcode
      cases hcode
    refine ⟨hcounts, htext, hne, ?_⟩
    by_contra hfits
    obtain ⟨front, span, back, rfl, hfront, hspan⟩ := Highlight.exists_first_not_fits hfits
    obtain ⟨fault, hfault⟩ := make_of_not_fits back hcounts htext hfront hspan
    rw [hfault] at hcode
    cases hcode
  · rintro ⟨hcounts, htext, hne, hfits⟩
    obtain ⟨code, hcode, -⟩ := exists_make_of_fits hcounts htext hne hfits
    exact ⟨code, hcode⟩

/-- A code block holds what it was made from. -/
theorem held_of_make {code : Code} (h : make source spans options = .ok code) :
    code.source = source ∧ code.spans = spans ∧ code.options = options := by
  obtain ⟨hcounts, htext, hne, hfits⟩ := exists_make_iff.mp ⟨code, h⟩
  obtain ⟨made, hmade, hheld⟩ := exists_make_of_fits hcounts htext hne hfits
  obtain rfl : code = made := Except.ok.inj (h.symm.trans hmade)
  exact hheld

/-- Making a code block fails only for a negative count, an empty source, a span that does not fit
or the lack of spans. -/
theorem failure_of_make {failure : Failure} (h : make source spans options = .error failure) :
    (∃ count, failure = .negativeCount count) ∨ failure = .emptySource ∨
      (∃ span fault, failure = .invalidSpan span fault) ∨ failure = .nothingHighlighted := by
  cases hcount : options.negativeCount? with
  | some count =>
    rw [make_of_negativeCount hcount] at h
    exact Or.inl ⟨count, (Except.error.inj h).symm⟩
  | none =>
    have hcounts := Excerpt.Options.negativeCount?_eq_none_iff.mp hcount
    by_cases htext : source.text = ""
    · rw [make_of_empty hcounts htext] at h
      exact Or.inr (Or.inl (Except.error.inj h).symm)
    · cases hspans : Highlight.resolveAll source spans with
      | error fault =>
        rw [make_of_resolveAll_error hcounts htext hspans] at h
        obtain rfl := Except.error.inj h
        exact Or.inr (Or.inr (Or.inl (Highlight.exists_invalidSpan_of_resolveAll hspans)))
      | ok as =>
        rw [make_of_resolveAll_ok hcounts htext hspans] at h
        split at h
        · exact Or.inr (Or.inr (Or.inr (Except.error.inj h).symm))
        · cases h

end Make

/-- The highlights of a code block lie on its source. -/
theorem excerpt_resolved (code : Code) : code.excerpt.Resolved :=
  (Highlight.resolved_of_resolveAll code.resolved).2

/-- A code block has a highlight. -/
theorem highlights_ne_nil (code : Code) : code.excerpt.highlights ≠ [] :=
  mt Excerpt.displayedLines_of_nil code.displayed_ne

/-- The excerpt of a code block can be drawn with any glyphs. -/
theorem exists_draw (code : Code) (g : Glyphs) (level : Severity) :
    ∃ lines, code.excerpt.draw g level = .ok lines := by
  have hrows := code.excerpt_resolved.rows_eq code.text_ne code.highlights_ne_nil
  rw [Excerpt.draw, hrows]
  exact ⟨_, rfl⟩

end Code

end Diagnostics
