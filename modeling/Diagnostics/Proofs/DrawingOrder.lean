import Diagnostics.Proofs.Construction
import Diagnostics.Proofs.PhysicalLines
import Mathlib.Data.Prod.Lex

/-!
# The order of highlights

Spans that are placed together are put in order by the lines and columns of their beginnings. On one
source this is the order of their octets, since positions grow with offsets, and spans with the same
octets stay in the order given. A stable order is determined by what it orders, so spans given in
another order are drawn alike as long as those with the same octets keep theirs.
-/

namespace Diagnostics

section Sorting

variable {α β κ : Type} [LinearOrder κ] {key : α → κ} {xs ys : List α}

/-- Some items put in the order of their keys. -/
structure SortedStably (key : α → κ) (given sorted : List α) : Prop where
  /-- No item is lost or repeated. -/
  perm : sorted.Perm given
  ascending : sorted.Pairwise (key · ≤ key ·)
  /-- The items with one key are in the order given. -/
  stable : ∀ k, sorted.filter (key · = k) = given.filter (key · = k)

/-- Lists that have the same items for each key have the same items, each as often. -/
theorem perm_of_filter_eq (h : ∀ k, xs.filter (key · = k) = ys.filter (key · = k)) :
    xs.Perm ys := by
  classical
  refine List.perm_iff_count.mpr fun c => ?_
  have hclass : ∀ l : List α, (l.filter (key · = key c)).count c = l.count c :=
    fun l => List.count_filter (decide_eq_true rfl)
  rw [← hclass xs, h, hclass]

/-- Behind a common head, the items for each key are the same as well. -/
theorem filter_eq_of_cons {x : α}
    (h : ∀ k, (x :: xs).filter (key · = k) = (x :: ys).filter (key · = k)) (k : κ) :
    xs.filter (key · = k) = ys.filter (key · = k) := by
  have hk := h k
  by_cases hx : key x = k
  · rwa [List.filter_cons_of_pos (by simpa using hx), List.filter_cons_of_pos (by simpa using hx),
      List.cons.injEq, and_iff_right rfl] at hk
  · rwa [List.filter_cons_of_neg (by simpa using hx),
      List.filter_cons_of_neg (by simpa using hx)] at hk

/-- Lists in ascending order are equal if they have the same items for each key, in the same
order. -/
theorem eq_of_filter_eq (hxs : xs.Pairwise (key · ≤ key ·)) (hys : ys.Pairwise (key · ≤ key ·))
    (h : ∀ k, xs.filter (key · = k) = ys.filter (key · = k)) : xs = ys := by
  have hmem := fun c => (perm_of_filter_eq h).mem_iff (a := c)
  induction xs generalizing ys with
  | nil => exact (List.nil_perm.mp (perm_of_filter_eq h)).symm
  | cons x xs ih =>
    cases ys with
    | nil => exact absurd ((hmem x).mp List.mem_cons_self) List.not_mem_nil
    | cons y ys =>
      obtain ⟨hx, hxtail⟩ := List.pairwise_cons.mp hxs
      obtain ⟨hy, hytail⟩ := List.pairwise_cons.mp hys
      -- Both heads have the least key, so each is the first item with that key.
      have hkey : key x = key y := by
        apply le_antisymm
        · rcases List.mem_cons.mp ((hmem y).mpr List.mem_cons_self) with rfl | hyxs
          · exact le_rfl
          · exact hx y hyxs
        · rcases List.mem_cons.mp ((hmem x).mp List.mem_cons_self) with rfl | hxys
          · exact le_rfl
          · exact hy x hxys
      have hheads := h (key x)
      rw [List.filter_cons_of_pos (by simp), List.filter_cons_of_pos (by simp [hkey]),
        List.cons.injEq] at hheads
      obtain ⟨rfl, -⟩ := hheads
      rw [ih hxtail hytail (filter_eq_of_cons h)
        fun c => (perm_of_filter_eq (filter_eq_of_cons h)).mem_iff]

namespace SortedStably

/-- There is one stable order. It depends on the items with each key, and on how these are
ordered. -/
theorem eq_of_filter_eq {given others sorted resorted : List α}
    (h : SortedStably key given sorted) (h' : SortedStably key others resorted)
    (hsame : ∀ k, others.filter (key · = k) = given.filter (key · = k)) : sorted = resorted := by
  refine Diagnostics.eq_of_filter_eq h.ascending h'.ascending fun k => ?_
  rw [h.stable, h'.stable, hsame]

/-- What is read off ordered items is ordered. -/
theorem map {f : β → α} {given sorted : List β} (h : SortedStably (key ∘ f) given sorted) :
    SortedStably key (given.map f) (sorted.map f) where
  perm := h.perm.map f
  ascending := List.pairwise_map.mpr h.ascending
  stable k := by
    rw [List.filter_map, List.filter_map]
    exact congrArg (List.map f) (h.stable k)

/-- Sorting by a comparison orders items stably by a key, if on these items the comparison is that
of the keys. -/
theorem mergeSort {le : α → α → Bool} (htrans : ∀ a b c, le a b → le b c → le a c)
    (htotal : ∀ a b, le a b || le b a)
    (hkey : ∀ a ∈ xs, ∀ b ∈ xs, le a b = true ↔ key a ≤ key b) :
    SortedStably key xs (xs.mergeSort le) where
  perm := List.mergeSort_perm xs le
  ascending := by
    refine (List.pairwise_mergeSort htrans htotal xs).imp_of_mem fun ha hb hle => ?_
    exact (hkey _ (List.mem_mergeSort.mp ha) _ (List.mem_mergeSort.mp hb)).mp hle
  stable k := by
    -- The items with one key are in order as they are, so sorting keeps them as a sublist.
    have hclass : (xs.filter (key · = k)).Pairwise fun a b => le a b = true := by
      refine List.Pairwise.imp_of_mem (R := fun _ _ => True) (fun {a b} ha hb _ => ?_)
        (List.pairwise_of_forall fun _ _ => trivial)
      obtain ⟨ha, hak⟩ := List.mem_filter.mp ha
      obtain ⟨hb, hbk⟩ := List.mem_filter.mp hb
      have hsame : key a = key b := by
        rw [of_decide_eq_true hak, of_decide_eq_true hbk]
      exact (hkey a ha b hb).mpr hsame.le
    have hkept : (xs.filter (key · = k)).Sublist (xs.mergeSort le) :=
      List.sublist_mergeSort htrans htotal hclass List.filter_sublist
    have hfiltered := hkept.filter (key · = k)
    simp only [List.filter_filter, Bool.and_self] at hfiltered
    have hlength : ((xs.mergeSort le).filter (key · = k)).length =
        (xs.filter (key · = k)).length :=
      ((List.mergeSort_perm xs le).filter _).length_eq
    exact (hfiltered.eq_of_length hlength.symm).symm

end SortedStably

end Sorting

/-- The ends of a span in octets, the first before the second. -/
def Span.octets (span : Span) : ℤ ×ₗ ℤ :=
  toLex (span.start, span.stop)

namespace Highlight

section Comparison

variable {source : Source} {a b : Highlight}

/-- A highlight begins where the first end of its span lies. -/
theorem start_resolved (h : resolve source a.span = .ok a) :
    source.resolve a.span.start = .ok a.start := by
  obtain ⟨-, j, k, hover⟩ := exists_over_of_resolve h
  rw [hover.start_offset, source.resolve_octetCount_take, hover.start_eq]

/-- Highlights that begin on one line and in one column begin at one octet. -/
theorem start_eq_of_line_column (ha : resolve source a.span = .ok a)
    (hb : resolve source b.span = .ok b) (hline : a.start.line = b.start.line)
    (hcolumn : a.start.column = b.start.column) : a.span.start = b.span.start := by
  have hafirst := start_resolved ha
  have hbfirst := start_resolved hb
  obtain ⟨j, hj, hja⟩ := Source.resolve_eq_ok_iff.mp hafirst
  obtain ⟨k, hk, hkb⟩ := Source.resolve_eq_ok_iff.mp hbfirst
  have hja : source.offsetOf a.start.line a.start.column = .ok (octetCount (source.chars.take j)) :=
    Source.offsetOf_eq_ok_iff.mpr ⟨a.start, hj ▸ hafirst, rfl, rfl⟩
  have hkb : source.offsetOf b.start.line b.start.column = .ok (octetCount (source.chars.take k)) :=
    Source.offsetOf_eq_ok_iff.mpr ⟨b.start, hk ▸ hbfirst, rfl, rfl⟩
  rw [hline, hcolumn, hkb, Except.ok.injEq] at hja
  rw [hj, hk, hja]

/-- On one source, the order by lines and columns is that by octets. -/
theorem comesFirst_iff (ha : resolve source a.span = .ok a) (hb : resolve source b.span = .ok b) :
    comesFirst a b = true ↔ a.span.octets ≤ b.span.octets := by
  have hlt := Source.resolve_lt_iff (start_resolved ha) (start_resolved hb)
  have hgt := Source.resolve_lt_iff (start_resolved hb) (start_resolved ha)
  have hsame := start_eq_of_line_column ha hb
  have horder : ∀ p q : Position, p < q ↔ p.line < q.line ∨ p.line = q.line ∧
      (p.column < q.column ∨ p.column = q.column ∧ p.offset < q.offset) := fun _ _ => Iff.rfl
  rw [horder] at hlt hgt
  simp only [comesFirst, Span.octets, Prod.Lex.toLex_le_toLex, Bool.or_eq_true, Bool.and_eq_true,
    decide_eq_true_eq, beq_iff_eq]
  omega

/-- Of three highlights, the first comes before the third if it comes before the second and that
before the third. -/
theorem comesFirst_trans (a b c : Highlight) (hab : comesFirst a b = true)
    (hbc : comesFirst b c = true) : comesFirst a c = true := by
  simp only [comesFirst, Bool.or_eq_true, Bool.and_eq_true, decide_eq_true_eq, beq_iff_eq] at *
  omega

/-- Of two highlights, one comes first. -/
theorem comesFirst_total (a b : Highlight) : (comesFirst a b || comesFirst b a) = true := by
  simp only [comesFirst, Bool.or_eq_true, Bool.and_eq_true, decide_eq_true_eq, beq_iff_eq]
  omega

end Comparison

section Placing

variable {source : Source} {spans others : List Span} {as : List Highlight}

/-- Spans are placed together as highlights exactly if these are, one by one, the spans in the
stable order of their octets placed on the source. -/
theorem resolveAll_eq_ok_iff : resolveAll source spans = .ok as ↔
    SortedStably Span.octets spans (as.map (·.span)) ∧
      ∀ a ∈ as, resolve source a.span = .ok a := by
  have hsorted : ∀ {bs}, resolveAll source spans = .ok bs →
      SortedStably Span.octets spans (bs.map (·.span)) ∧
        ∀ b ∈ bs, resolve source b.span = .ok b := by
    intro bs hbs
    rw [resolveAll] at hbs
    obtain ⟨given, hgiven, hbs⟩ := exists_of_bind_eq_ok hbs
    obtain rfl : given.mergeSort comesFirst = bs := Except.ok.inj hbs
    obtain ⟨rfl, hplaced⟩ := mapM_resolve_eq_ok_iff.mp hgiven
    refine ⟨SortedStably.map (.mergeSort comesFirst_trans comesFirst_total fun a ha b hb =>
      comesFirst_iff (hplaced a ha) (hplaced b hb)), fun b hb => ?_⟩
    exact hplaced b (List.mem_mergeSort.mp hb)
  refine ⟨hsorted, ?_⟩
  rintro ⟨hspans, hplaced⟩
  have hfits : ∀ span ∈ spans, span.Fits source := by
    intro span hspan
    obtain ⟨a, ha, rfl⟩ := List.mem_map.mp (hspans.perm.mem_iff.mpr hspan)
    exact exists_resolve_iff.mp ⟨a, hplaced a ha⟩
  obtain ⟨bs, hbs⟩ := exists_resolveAll_iff.mpr hfits
  obtain ⟨hspans', hplaced'⟩ := hsorted hbs
  have hsame : as.map (·.span) = bs.map (·.span) := hspans.eq_of_filter_eq hspans' fun _ => rfl
  have hall := mapM_resolve_eq_ok_iff.mpr ⟨hsame, hplaced⟩
  rw [mapM_resolve_eq_ok_iff.mpr ⟨rfl, hplaced'⟩, Except.ok.injEq] at hall
  rw [hbs, hall]

/-- Spans in another order, in which those with the same octets keep theirs, are placed alike. -/
theorem resolveAll_of_filter_eq
    (hsame : ∀ k, others.filter (·.octets = k) = spans.filter (·.octets = k))
    (h : resolveAll source spans = .ok as) : resolveAll source others = .ok as := by
  obtain ⟨hspans, hplaced⟩ := resolveAll_eq_ok_iff.mp h
  have hperm := hspans.perm.trans (perm_of_filter_eq hsame).symm
  exact resolveAll_eq_ok_iff.mpr
    ⟨⟨hperm, hspans.ascending, fun k => (hspans.stable k).trans (hsame k).symm⟩, hplaced⟩

end Placing

end Highlight

/-- A code block made from spans in another order, in which those with the same octets keep theirs,
shows the same excerpt. -/
theorem Code.exists_make_of_filter_eq {source : Source} {spans others : List Span}
    {options : Excerpt.Options} {code : Code}
    (hsame : ∀ k, others.filter (·.octets = k) = spans.filter (·.octets = k))
    (h : make source spans options = .ok code) :
    ∃ other, make source others options = .ok other ∧ other.excerpt = code.excerpt := by
  obtain ⟨hcounts, htext, hne, hfits⟩ := exists_make_iff.mp ⟨code, h⟩
  have hperm : others.Perm spans := perm_of_filter_eq hsame
  obtain ⟨other, hother, hsource, hspans, hoptions⟩ := exists_make_of_fits hcounts htext
    (fun hnil => hne (List.nil_perm.mp (hnil ▸ hperm)))
    fun span hspan => hfits span (hperm.mem_iff.mp hspan)
  obtain ⟨hsource', hspans', hoptions'⟩ := held_of_make h
  have hplaced := other.resolved
  have hplaced' := code.resolved
  rw [hsource, hspans] at hplaced
  rw [hsource', hspans'] at hplaced'
  rw [Highlight.resolveAll_of_filter_eq hsame hplaced', Except.ok.injEq] at hplaced
  refine ⟨other, hother, ?_⟩
  rw [excerpt, excerpt, hsource, hsource', hoptions, hoptions', hplaced]

namespace Highlight

/-- Spans placed together are put in the order of their octets, stably, and none is lost. If some do
not fit the source, the first of these in the order given is refused. Otherwise the highlights are
the spans in the stable order of their octets, each placed on the source. So spans in another order,
in which those with the same octets keep theirs, are placed alike, and code blocks made from them
are drawn alike. -/
theorem resolveAll_orders_by_octets (source : Source) (spans : List Span) :
    ((¬∀ span ∈ spans, span.Fits source) → ∃ front span back fault,
      spans = front ++ span :: back ∧ (∀ s ∈ front, s.Fits source) ∧ ¬span.Fits source ∧
      resolve source span = .error (.invalidSpan span fault) ∧
      resolveAll source spans = .error (.invalidSpan span fault)) ∧
    ((∀ span ∈ spans, span.Fits source) → ∃ as, resolveAll source spans = .ok as ∧
      SortedStably Span.octets spans (as.map (·.span)) ∧
      ∀ a ∈ as, resolve source a.span = .ok a) ∧
    ∀ others, (∀ k, others.filter (·.octets = k) = spans.filter (·.octets = k)) →
      (∀ as, resolveAll source spans = .ok as → resolveAll source others = .ok as) ∧
      ∀ options code, Code.make source spans options = .ok code →
        ∃ other, Code.make source others options = .ok other ∧ ∀ g level,
          Layout.block g level (.code other) = Layout.block g level (.code code) ∧
          ∀ color, ∃ lines, (Diagnostic.ofBlock level (.code code)).render g color = .ok lines ∧
            (Diagnostic.ofBlock level (.code other)).render g color = .ok lines := by
  refine ⟨fun hmisfit => ?_, fun hfits => ?_, fun others hsame => ⟨fun as has => ?_, ?_⟩⟩
  · obtain ⟨front, span, back, rfl, hfront, hspan⟩ := exists_first_not_fits hmisfit
    obtain ⟨fault, hfault⟩ := resolve_eq_error_of_not_fits hspan
    refine ⟨front, span, back, fault, rfl, hfront, hspan, hfault, ?_⟩
    rw [resolveAll, mapM_resolve_eq_error hfront hfault]
    rfl
  · obtain ⟨as, has⟩ := exists_resolveAll_iff.mpr hfits
    exact ⟨as, has, resolveAll_eq_ok_iff.mp has⟩
  · exact resolveAll_of_filter_eq hsame has
  · intro options code hcode
    obtain ⟨other, hother, hexcerpt⟩ := Code.exists_make_of_filter_eq hsame hcode
    refine ⟨other, hother, fun g level => ?_⟩
    have hblock : Layout.block g level (.code other) = Layout.block g level (.code code) := by
      rw [Layout.block, Layout.block, hexcerpt]
    obtain ⟨lines, hlines⟩ := code.exists_draw g level
    have hdrawn : Layout.block g level (.code code) = .ok lines := by rw [Layout.block, hlines]
    exact ⟨hblock, fun color => ⟨_, Diagnostic.render_ofBlock hdrawn color,
      Diagnostic.render_ofBlock (hblock.trans hdrawn) color⟩⟩

/-- Two spans with the same octets, given after one that begins later. -/
def repeated : List Span :=
  [⟨3, 4, none, none, none⟩, ⟨0, 2, some "one", none, none⟩, ⟨0, 2, some "two", none, none⟩]

/-- The same spans, the later one given between the two. -/
def reordered : List Span :=
  [⟨0, 2, some "one", none, none⟩, ⟨3, 4, none, none, none⟩, ⟨0, 2, some "two", none, none⟩]

/-- Given in either order, the two spans with the same octets are placed before the later one and
make the same code block. With two spans that do not fit in front of them, the first is refused. -/
theorem resolveAll_orders_by_octets_repeated :
    (∀ k, reordered.filter (·.octets = k) = repeated.filter (·.octets = k)) ∧
    (∃ as, resolveAll ⟨"é\nb"⟩ repeated = .ok as ∧ resolveAll ⟨"é\nb"⟩ reordered = .ok as ∧
      as.map (·.span) = [⟨0, 2, some "one", none, none⟩, ⟨0, 2, some "two", none, none⟩,
        ⟨3, 4, none, none, none⟩]) ∧
    (∃ code other, Code.make ⟨"é\nb"⟩ repeated {} = .ok code ∧
      Code.make ⟨"é\nb"⟩ reordered {} = .ok other ∧
      Layout.block .ascii .warn (.code other) = Layout.block .ascii .warn (.code code)) ∧
    ∃ span fault, resolveAll ⟨"é\nb"⟩ (⟨1, 2, none, none, none⟩ :: ⟨0, 9, none, none, none⟩ ::
      repeated) = .error (.invalidSpan span fault) := by
  have hfits : ∀ span ∈ repeated, span.Fits ⟨"é\nb"⟩ := by
    simp only [repeated, List.forall_mem_cons]
    exact ⟨⟨by decide, by decide, by decide, ⟨2, by decide⟩, ⟨3, by decide⟩⟩,
      ⟨by decide, by decide, by decide, ⟨0, by decide⟩, ⟨1, by decide⟩⟩,
      ⟨by decide, by decide, by decide, ⟨0, by decide⟩, ⟨1, by decide⟩⟩, by simp⟩
  have hmisfit : ¬∀ span ∈ (⟨1, 2, none, none, none⟩ :: ⟨0, 9, none, none, none⟩ :: repeated :
      List Span), span.Fits ⟨"é\nb"⟩ := by
    intro hall
    have hlate := (hall ⟨0, 9, none, none, none⟩ (by simp)).bounded
    exact absurd hlate (by decide)
  have hsame : ∀ k, reordered.filter (·.octets = k) = repeated.filter (·.octets = k) := by
    intro k
    by_cases hk : k = toLex (3, 4)
    · subst hk
      decide
    · simp [reordered, repeated, List.filter_cons, Span.octets, Ne.symm hk]
  have hsorted : SortedStably Span.octets repeated [⟨0, 2, some "one", none, none⟩,
      ⟨0, 2, some "two", none, none⟩, ⟨3, 4, none, none, none⟩] := by
    refine ⟨by decide, by decide, fun k => ?_⟩
    by_cases hk : k = toLex (3, 4)
    · subst hk
      decide
    · simp [repeated, List.filter_cons, Span.octets, Ne.symm hk]
  obtain ⟨-, hplaced, hothers⟩ := resolveAll_orders_by_octets ⟨"é\nb"⟩ repeated
  obtain ⟨as, has, hspans, -⟩ := hplaced hfits
  obtain ⟨hresolved, hmade⟩ := hothers reordered hsame
  obtain ⟨code, hcode, -⟩ :=
    Code.exists_make_of_fits Excerpt.Options.nonnegative_default (by decide) (by decide) hfits
  obtain ⟨other, hother, hdrawn⟩ := hmade {} code hcode
  obtain ⟨hrefused, -⟩ := resolveAll_orders_by_octets ⟨"é\nb"⟩
    (⟨1, 2, none, none, none⟩ :: ⟨0, 9, none, none, none⟩ :: repeated)
  obtain ⟨front, span, back, fault, -, -, -, -, herror⟩ := hrefused hmisfit
  exact ⟨hsame, ⟨as, has, hresolved as has, hspans.eq_of_filter_eq hsorted fun _ => rfl⟩,
    ⟨code, other, hcode, hother, (hdrawn .ascii .warn).1⟩, span, fault, herror⟩

end Highlight

end Diagnostics
