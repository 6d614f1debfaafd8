import Diagnostics.Layout.Tree
import Diagnostics.Proofs.Construction

/-!
# Layout never fails late

A tree of blocks can be laid out with every glyph table, since all that a block needs was checked
when it was made. A value that is not a block is the only obstacle, and the first such value in
layout order is the one reported.
-/

namespace Diagnostics

mutual

/-- The values in a block that are not blocks, in layout order. -/
def Block.foreigns : Block → List Datum
  | .prefixed _ child => child.foreigns
  | .container children => Block.foreignsOfAll children
  | .steps _ items _ => Block.foreignsOfAll items
  | .foreign value => [value]
  | .header _ | .code _ | .verbatim _ | .separator _ | .note _ _ | .tag _ | .stack _ => []

/-- The values in some blocks that are not blocks, in layout order. -/
def Block.foreignsOfAll : List Block → List Datum
  | [] => []
  | b :: rest => b.foreigns ++ Block.foreignsOfAll rest

end

/-- The values in a diagnostic and its causes that are not blocks, in layout order. -/
def Diagnostic.foreigns (d : Diagnostic) : List Datum :=
  d.reports.flatMap fun r => Block.foreignsOfAll r.blocks

namespace Layout

variable {α β : Type}

/-- A result fails for the first of some values that are not blocks, and succeeds if there is
none. -/
def FailsFor (values : List Datum) (result : Except Failure α) : Prop :=
  match values with
  | [] => ∃ a, result = .ok a
  | value :: _ => result = .error (.unsupportedBlock value.kind)

/-- What succeeds fails for no value. -/
theorem FailsFor.ok (a : α) : FailsFor [] (.ok a) :=
  ⟨a, rfl⟩

/-- Of two results in a row the first to fail decides. -/
theorem FailsFor.bind {first second : List Datum} {x : Except Failure α}
    {f : α → Except Failure β} (hx : FailsFor first x) (hf : ∀ a, FailsFor second (f a)) :
    FailsFor (first ++ second) (x >>= f) := by
  cases first with
  | nil =>
    obtain ⟨a, rfl⟩ := hx
    exact hf a
  | cons value first =>
    have hx : x = .error (.unsupportedBlock value.kind) := hx
    subst hx
    rfl

/-- Working on a result that succeeds does not change why it fails. -/
theorem FailsFor.map {values : List Datum} {x : Except Failure α} (hx : FailsFor values x)
    (f : α → β) : FailsFor values (x.map f) := by
  cases values with
  | nil =>
    obtain ⟨a, rfl⟩ := hx
    exact ⟨f a, rfl⟩
  | cons value values =>
    have hx : x = .error (.unsupportedBlock value.kind) := hx
    subst hx
    rfl

mutual

/-- A block is laid out unless a value in it is not a block. -/
theorem block_failsFor (g : Glyphs) (level : Severity) (b : Block) :
    FailsFor b.foreigns (block g level b) := by
  cases b with
  | header h => exact .ok _
  | prefixed lead child => exact (block_failsFor g level child).map _
  | code c => exact c.exists_draw g level
  | verbatim text => exact .ok _
  | container children => exact blocks_failsFor g level children
  | separator s => exact .ok _
  | note title message => exact .ok _
  | tag label => exact .ok _
  | stack s => exact .ok _
  | steps title items finalMessage => exact (steps_failsFor g level items).map _
  | foreign value => rfl

/-- Blocks are laid out unless a value in them is not a block. -/
theorem blocks_failsFor (g : Glyphs) (level : Severity) (bs : List Block) :
    FailsFor (Block.foreignsOfAll bs) (blocks g level bs) := by
  cases bs with
  | nil => exact .ok _
  | cons b rest =>
    rw [Block.foreignsOfAll]
    exact (block_failsFor g level b).bind fun lines => (blocks_failsFor g level rest).map _

/-- Steps are laid out unless a value in them is not a block. -/
theorem steps_failsFor (g : Glyphs) (level : Severity) (bs : List Block) :
    FailsFor (Block.foreignsOfAll bs) (steps g level bs) := by
  cases bs with
  | nil => exact .ok _
  | cons b rest =>
    rw [Block.foreignsOfAll]
    exact (block_failsFor g level b).bind fun lines => (steps_failsFor g level rest).map _

end

/-- Reports are laid out unless a value in them is not a block. -/
theorem reports_failsFor (g : Glyphs) (rs : List Report) :
    FailsFor (rs.flatMap fun r => Block.foreignsOfAll r.blocks) (reports g rs) := by
  induction rs with
  | nil => exact .ok _
  | cons r rest ih =>
    rw [List.flatMap_cons]
    cases rest with
    | nil =>
      rw [List.flatMap_nil, List.append_nil]
      exact blocks_failsFor g r.kind r.blocks
    | cons next rest =>
      exact (blocks_failsFor g r.kind r.blocks).bind fun lines => ih.map _

end Layout

namespace Diagnostic

/-- Rendering fails only for a value that is not a block. -/
theorem render_failsFor (d : Diagnostic) (g : Glyphs) (color : Bool) :
    Layout.FailsFor d.foreigns (d.render g color) :=
  (Layout.reports_failsFor g d.reports).map _

/-- Rendering to one text fails only for a value that is not a block. -/
theorem renderText_failsFor (d : Diagnostic) (g : Glyphs) (color : Bool) :
    Layout.FailsFor d.foreigns (d.renderText g color) :=
  (d.render_failsFor g color).map _

end Diagnostic

/-- Faults are found when a code block is made and never later. Making it succeeds exactly with
counts that are not negative, a source with a text, and spans, at least one, that all fit; otherwise
the first negative count, the empty source, the first span that does not fit and the lack of spans
are reported in this order. A diagnostic of blocks that were made renders with every glyph table,
with and without colour; in one with other values, the first of them is reported. -/
theorem make_checks_all_and_render_succeeds :
    (∀ (source : Source) (spans : List Span) (options : Excerpt.Options),
      ((∃ code, Code.make source spans options = .ok code) ↔
        (0 ≤ options.previousLines ∧ 0 ≤ options.nextLines ∧ 0 ≤ options.middleLines) ∧
          source.text ≠ "" ∧ spans ≠ [] ∧ ∀ span ∈ spans, span.Fits source) ∧
      (∀ code, Code.make source spans options = .ok code →
        code.source = source ∧ code.spans = spans ∧ code.options = options) ∧
      (options.previousLines < 0 →
        Code.make source spans options = .error (.negativeCount .previous)) ∧
      (0 ≤ options.previousLines → options.nextLines < 0 →
        Code.make source spans options = .error (.negativeCount .next)) ∧
      (0 ≤ options.previousLines → 0 ≤ options.nextLines → options.middleLines < 0 →
        Code.make source spans options = .error (.negativeCount .middle)) ∧
      (options.Nonnegative → source.text = "" →
        Code.make source spans options = .error .emptySource) ∧
      (options.Nonnegative → source.text ≠ "" → ∀ front span back, spans = front ++ span :: back →
        (∀ s ∈ front, s.Fits source) → ¬span.Fits source →
        ∃ fault, Code.make source spans options = .error (.invalidSpan span fault)) ∧
      (options.Nonnegative → source.text ≠ "" → spans = [] →
        Code.make source spans options = .error .nothingHighlighted)) ∧
    ∀ (d : Diagnostic) (g : Glyphs) (color : Bool),
      (d.foreigns = [] → ∃ lines, d.render g color = .ok lines ∧
        d.renderText g color = .ok ("\n".intercalate lines)) ∧
      (∀ value rest, d.foreigns = value :: rest →
        d.render g color = .error (.unsupportedBlock value.kind) ∧
          d.renderText g color = .error (.unsupportedBlock value.kind)) := by
  refine ⟨fun source spans options => ⟨Code.exists_make_iff, ?_, ?_, ?_, ?_, ?_, ?_, ?_⟩, ?_⟩
  · intro code hcode
    obtain ⟨hcounts, htext, hne, hfits⟩ := Code.exists_make_iff.mp ⟨code, hcode⟩
    obtain ⟨made, hmade, hheld⟩ := Code.exists_make_of_fits hcounts htext hne hfits
    obtain rfl : code = made := Except.ok.inj (hcode.symm.trans hmade)
    exact hheld
  · intro hprevious
    exact Code.make_of_negativeCount (by rw [Excerpt.Options.negativeCount?, if_pos hprevious])
  · intro hprevious hnext
    refine Code.make_of_negativeCount ?_
    rw [Excerpt.Options.negativeCount?, if_neg (by omega), if_pos hnext]
  · intro hprevious hnext hmiddle
    refine Code.make_of_negativeCount ?_
    rw [Excerpt.Options.negativeCount?, if_neg (by omega), if_neg (by omega), if_pos hmiddle]
  · exact Code.make_of_empty
  · rintro hcounts htext front span back rfl hfront hspan
    exact Code.make_of_not_fits back hcounts htext hfront hspan
  · rintro hcounts htext rfl
    exact Code.make_of_nil hcounts htext
  · intro d g color
    have hrender := d.render_failsFor g color
    have htext := d.renderText_failsFor g color
    constructor
    · intro hnone
      rw [hnone] at hrender
      obtain ⟨lines, hlines⟩ := hrender
      exact ⟨lines, hlines, by rw [Diagnostic.renderText, hlines]; rfl⟩
    · intro value rest hvalue
      rw [hvalue] at hrender htext
      exact ⟨hrender, htext⟩

/-- Two lines of which the first holds a character of two octets: a span over that character can be
shown, one that begins inside it is reported although another stands before it, and a number nested
among blocks is reported at layout. -/
theorem make_checks_all_and_render_succeeds_accented :
    (∃ code, Code.make ⟨"é\nb"⟩ [⟨0, 2, none, none, none⟩] {} = .ok code ∧
      ∃ lines, Diagnostic.render ⟨⟨.error, [.code code]⟩, []⟩ .ascii true = .ok lines) ∧
    Code.make ⟨""⟩ [] { nextLines := -1 } = .error (.negativeCount .next) ∧
    (∃ fault, Code.make ⟨"é\nb"⟩ [⟨0, 2, none, none, none⟩, ⟨1, 3, none, none, none⟩] {} =
      .error (.invalidSpan ⟨1, 3, none, none, none⟩ fault)) ∧
    Diagnostic.render ⟨⟨.error, [.container [.tag "a", .foreign (.integer 1)]]⟩, []⟩ .ascii true =
      .error (.unsupportedBlock "int") := by
  obtain ⟨hmake, hrender⟩ := make_checks_all_and_render_succeeds
  have hfits : (Span.mk 0 2 none none none).Fits ⟨"é\nb"⟩ :=
    ⟨by decide, by decide, by decide, ⟨0, by decide⟩, ⟨1, by decide⟩⟩
  have hinside : ¬(Span.mk 1 3 none none none).Fits ⟨"é\nb"⟩ := by
    intro h
    have hrefused : Highlight.resolve ⟨"é\nb"⟩ ⟨1, 3, none, none, none⟩ =
        .error (.invalidSpan ⟨1, 3, none, none, none⟩ (.insideCharacter 1)) := by decide
    obtain ⟨a, ha⟩ := Highlight.exists_resolve_iff.mpr h
    rw [hrefused] at ha
    cases ha
  obtain ⟨hexists, -⟩ := hmake ⟨"é\nb"⟩ [⟨0, 2, none, none, none⟩] {}
  obtain ⟨-, -, -, hnext, -⟩ := hmake ⟨""⟩ [] { nextLines := -1 }
  obtain ⟨-, -, -, -, -, -, hfirst, -⟩ :=
    hmake ⟨"é\nb"⟩ [⟨0, 2, none, none, none⟩, ⟨1, 3, none, none, none⟩] {}
  obtain ⟨code, hcode⟩ := hexists.mpr ⟨by decide, by decide, by decide, by simpa using hfits⟩
  obtain ⟨lines, hlines, -⟩ :=
    (hrender ⟨⟨.error, [.code code]⟩, []⟩ .ascii true).1 (by simp [Diagnostic.foreigns,
      Diagnostic.reports, Block.foreignsOfAll, Block.foreigns])
  refine ⟨⟨code, hcode, lines, hlines⟩, hnext (by decide) (by decide), ?_, ?_⟩
  · exact hfirst ⟨by decide, by decide, by decide⟩ (by decide) [⟨0, 2, none, none, none⟩] _ [] rfl
      (by simpa using hfits) hinside
  · have hforeign := (hrender ⟨⟨.error, [.container [.tag "a", .foreign (.integer 1)]]⟩, []⟩
      .ascii true).2 (.integer 1) [] (by simp [Diagnostic.foreigns, Diagnostic.reports,
        Block.foreignsOfAll, Block.foreigns])
    exact hforeign.1

end Diagnostics
