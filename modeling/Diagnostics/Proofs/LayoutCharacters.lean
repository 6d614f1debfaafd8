import Diagnostics.Proofs.ExcerptCharacters
import Diagnostics.Proofs.Parts

/-!
# Characters that reach a line of a diagnostic

Layout goes down a tree of blocks, and what contains a block only puts marks or a lead in front of
the lines of the block and adds lines of its own. So a character that is not printable and in no
mark reaches a line of the whole only from a string of the diagnostic that does not lose it.
-/

namespace Diagnostics

namespace Layout

/-- All lines of a result have a property, unless the result is a failure. -/
def EachLine (p : Line → Prop) (result : Except Failure (List Line)) : Prop :=
  ∀ lines, result = .ok lines → ∀ line ∈ lines, p line

section Results

variable {p q : Line → Prop} {x : Except Failure (List Line)}

/-- A result that succeeds has the lines it is given. -/
theorem EachLine.ok {lines : List Line} (h : ∀ line ∈ lines, p line) : EachLine p (.ok lines) := by
  intro result hresult
  rwa [← Except.ok.inj hresult]

/-- A failure has no lines. -/
theorem EachLine.error (failure : Failure) : EachLine p (.error failure) := by
  intro lines hlines
  cases hlines

/-- The lines of a result are worked on only if it succeeds. -/
theorem EachLine.bind {f : List Line → Except Failure (List Line)} (hx : EachLine p x)
    (hf : ∀ lines, (∀ line ∈ lines, p line) → EachLine q (f lines)) : EachLine q (x >>= f) := by
  cases x with
  | error failure => exact .error failure
  | ok lines => exact hf lines (hx lines rfl)

end Results

variable {c : Char} {g : Glyphs} {level : Severity}

section Steps

/-- The title of a list of steps. -/
theorem avoids_of_mem_stepsTitle (hc : Text.isPrintable c = false) (hg : g.Avoids c)
    {title : String} (htitle : Fragment.Hides ⟨title, .atBoundaries⟩ c) {line : Line}
    (hline : line ∈ stepsTitle g level title) : line.Avoids c := by
  have hspace := Text.not_mem_space hc
  have hsymbol := not_mem_symbol hc level
  unfold stepsTitle at hline
  split at hline
  · rw [List.mem_singleton.mp hline]
    simpa using hsymbol
  · refine avoids_of_mem_hanging ?_ ?_ htitle hline
    · simp only [Line.avoids_cons, Severity.paint_text, Line.avoids_nil, and_true]
      exact ⟨hsymbol, hspace⟩
    · simp only [Line.avoids_cons, Severity.paint_text, Text.not_mem_append, Line.avoids_nil,
        and_true]
      exact ⟨hg.vertical, hspace⟩

/-- The end of a list of steps. -/
theorem avoids_of_mem_stepsEnd (hc : Text.isPrintable c = false) (hg : g.Avoids c)
    {finalMessage : String} (hmessage : Fragment.Hides ⟨finalMessage, .atBoundaries⟩ c)
    {line : Line} (hline : line ∈ stepsEnd g level finalMessage) : line.Avoids c := by
  have hspace := Text.not_mem_space hc
  unfold stepsEnd at hline
  split at hline
  · rw [List.mem_singleton.mp hline]
    simp only [Line.avoids_cons, Severity.paint_text, Text.not_mem_append, Line.avoids_nil,
      and_true]
    exact ⟨hg.bottomCorner, hg.horizontal⟩
  · refine avoids_of_mem_hanging ?_ ?_ hmessage hline
    · simp only [Line.avoids_cons, Severity.paint_text, Text.not_mem_append, Line.avoids_nil,
        and_true]
      exact ⟨⟨⟨hg.bottomCorner, hg.horizontal⟩, hg.pointer⟩, hspace⟩
    · exact Line.avoids_plain.mpr (Text.not_mem_spaces hc _)

/-- The branch that leads a step is drawn with marks. -/
theorem not_mem_stepBranch (hc : Text.isPrintable c = false) (hg : g.Avoids c) :
    c ∉ (stepBranch g level).text.toList := by
  have hspace := Text.not_mem_space hc
  simp only [stepBranch, Severity.paint_text, Text.not_mem_append]
  exact ⟨⟨⟨hg.branch, hg.horizontal⟩, hg.pointer⟩, hspace⟩

/-- The bar beside a step is drawn with marks. -/
theorem not_mem_stepBar (hc : Text.isPrintable c = false) (hg : g.Avoids c) :
    c ∉ (stepBar g level).text.toList := by
  have hblank : c ∉ "   ".toList := Text.not_mem_of_all_isPrintable hc (by decide)
  simp only [stepBar, Severity.paint_text, Text.not_mem_append]
  exact ⟨hg.vertical, hblank⟩

/-- A step has the characters of its lines, its lead and its bar. -/
theorem avoids_of_mem_step {lead bar : Piece} (hlead : c ∉ lead.text.toList)
    (hbar : c ∉ bar.text.toList) {lines : List Line} (hlines : ∀ line ∈ lines, line.Avoids c)
    {line : Line} (hline : line ∈ step lead bar lines) : line.Avoids c := by
  cases lines with
  | nil =>
    rw [List.mem_singleton.mp hline]
    simpa using hlead
  | cons first rest =>
    rw [List.forall_mem_cons] at hlines
    rcases List.mem_cons.mp hline with rfl | hline
    · exact Line.avoids_cons.mpr ⟨hlead, hlines.1⟩
    · obtain ⟨inner, hinner, rfl⟩ := List.mem_map.mp hline
      exact Line.avoids_cons.mpr ⟨hbar, hlines.2 inner hinner⟩

end Steps

/-- Lines that are shown as they are hold no line boundary, so each shows its characters. -/
theorem avoids_of_mem_verbatim {text : Verbatim}
    (htext : ∀ line ∈ text.lines, Fragment.Hides ⟨line, .atBoundaries⟩ c) {line : Line}
    (hline : line ∈ text.lines.map Line.plain) : line.Avoids c := by
  obtain ⟨s, hs, rfl⟩ := List.mem_map.mp hline
  rw [Line.avoids_plain]
  intro hmem
  have hlost : Text.isLineBoundary c = true := htext s hs hmem
  rw [text.unbroken s hs c hmem] at hlost
  cases hlost

/-- A separator repeats its character, which is not a line feed. -/
theorem avoids_separator {s : Separator}
    (hs : Fragment.Hides ⟨String.singleton s.character, .atFeeds⟩ c) :
    (Line.plain (String.ofList (List.replicate s.width s.character))).Avoids c := by
  rw [Line.avoids_plain, String.toList_ofList]
  intro hmem
  obtain rfl := List.eq_of_mem_replicate hmem
  have hlost : (s.character == '\n') = true := hs (by simp)
  exact s.unbroken (eq_of_beq hlost)

/-- Whether what a block contributes itself is without a character: the lines it has of its own, and
what it puts in front of the lines of the blocks in it. -/
def OwnAvoids (g : Glyphs) (level : Severity) (c : Char) : Block → Prop
  | .prefixed lead _ => c ∉ lead.toList
  | .container _ => True
  | .steps title _ finalMessage =>
    ∀ line ∈ stepsTitle g level title ++ stepsEnd g level finalMessage, line.Avoids c
  | b => EachLine (·.Avoids c) (block g level b)

mutual

/-- A block. By induction on the tree: its lines are made of what each block in it contributes. -/
theorem eachLine_block (hc : Text.isPrintable c = false) (hg : g.Avoids c) (b : Block)
    (hb : ∀ part ∈ b.parts, OwnAvoids g level c part) :
    EachLine (·.Avoids c) (block g level b) := by
  have hown := hb b b.self_mem_parts
  cases b with
  | prefixed lead child =>
    rw [Block.parts, List.forall_mem_cons] at hb
    refine (eachLine_block hc hg child hb.2).bind fun lines hlines => .ok fun line hline => ?_
    obtain ⟨inner, hinner, rfl⟩ := List.mem_map.mp hline
    exact Line.avoids_cons.mpr ⟨hown, hlines inner hinner⟩
  | container children =>
    rw [Block.parts, List.forall_mem_cons] at hb
    exact eachLine_blocks hc hg children hb.2
  | steps title items finalMessage =>
    rw [Block.parts, List.forall_mem_cons] at hb
    obtain ⟨htitle, hend⟩ := List.forall_mem_append.mp hown
    refine (eachLine_steps hc hg items hb.2).bind fun lines hlines => .ok fun line hline => ?_
    rw [List.mem_append, List.mem_append] at hline
    rcases hline with (hline | hline) | hline
    · exact htitle line hline
    · exact hlines line hline
    · exact hend line hline
  | header _ | code _ | verbatim _ | separator _ | note _ _ | tag _ | stack _ | foreign _ =>
    exact hown

/-- Blocks one after another. -/
theorem eachLine_blocks (hc : Text.isPrintable c = false) (hg : g.Avoids c) (bs : List Block)
    (hbs : ∀ part ∈ Block.partsOfAll bs, OwnAvoids g level c part) :
    EachLine (·.Avoids c) (blocks g level bs) := by
  cases bs with
  | nil => exact .ok fun line hline => absurd hline List.not_mem_nil
  | cons b rest =>
    rw [Block.partsOfAll, List.forall_mem_append] at hbs
    refine (eachLine_block hc hg b hbs.1).bind fun lines hlines => ?_
    refine (eachLine_blocks hc hg rest hbs.2).bind fun others hothers => .ok ?_
    exact List.forall_mem_append.mpr ⟨hlines, hothers⟩

/-- Steps one after another. -/
theorem eachLine_steps (hc : Text.isPrintable c = false) (hg : g.Avoids c) (bs : List Block)
    (hbs : ∀ part ∈ Block.partsOfAll bs, OwnAvoids g level c part) :
    EachLine (·.Avoids c) (steps g level bs) := by
  cases bs with
  | nil => exact .ok fun line hline => absurd hline List.not_mem_nil
  | cons b rest =>
    rw [Block.partsOfAll, List.forall_mem_append] at hbs
    have hbar : c ∉ (stepBar g level).text.toList := not_mem_stepBar hc hg
    have hlead :
        c ∉ (if isSeparator b then stepBar g level else stepBranch g level).text.toList := by
      split
      · exact hbar
      · exact not_mem_stepBranch hc hg
    refine (eachLine_block hc hg b hbs.1).bind fun lines hlines => ?_
    refine (eachLine_steps hc hg rest hbs.2).bind fun others hothers => .ok ?_
    exact List.forall_mem_append.mpr
      ⟨fun line hline => avoids_of_mem_step hlead hbar hlines hline, hothers⟩

end

/-- What a block contributes itself shows a character only if one of the strings it holds itself
does. -/
theorem ownAvoids_of_hides (hc : Text.isPrintable c = false) (hg : g.Avoids c) {b : Block}
    (hb : ∀ f ∈ b.ownFragments, f.Hides c) : OwnAvoids g level c b := by
  cases b with
  | header h => exact .ok fun line hline => avoids_of_mem_header hc hg hb hline
  | prefixed lead child =>
    intro hmem
    cases hb ⟨lead, .nowhere⟩ List.mem_cons_self hmem
  | code code =>
    exact fun lines hlines line hline => code.avoids_of_mem_draw hc hg hb hlines hline
  | verbatim text =>
    rw [Block.ownFragments, List.forall_mem_map] at hb
    exact .ok fun line hline => avoids_of_mem_verbatim hb hline
  | container children => trivial
  | separator s =>
    rw [Block.ownFragments, List.forall_mem_singleton] at hb
    exact .ok (List.forall_mem_singleton.mpr (avoids_separator hb))
  | note title message =>
    simp only [Block.ownFragments, List.forall_mem_cons] at hb
    exact .ok fun line hline => avoids_of_mem_note hc hg hb.1 hb.2.1 hline
  | tag label =>
    rw [Block.ownFragments, List.forall_mem_singleton] at hb
    exact .ok fun line hline => avoids_of_mem_tag hc hg hb hline
  | stack s => exact .ok fun line hline => avoids_of_mem_stack hc hg hb hline
  | steps title items finalMessage =>
    simp only [Block.ownFragments, List.forall_mem_cons] at hb
    refine List.forall_mem_append.mpr ⟨fun line hline => ?_, fun line hline => ?_⟩
    · exact avoids_of_mem_stepsTitle hc hg hb.1 hline
    · exact avoids_of_mem_stepsEnd hc hg hb.2.1 hline
  | foreign value => exact .error _

/-- Reports one after another. -/
theorem eachLine_reports (hc : Text.isPrintable c = false) (hg : g.Avoids c) (rs : List Report)
    (hrs : ∀ r ∈ rs, ∀ part ∈ Block.partsOfAll r.blocks, OwnAvoids g r.kind c part) :
    EachLine (·.Avoids c) (reports g rs) := by
  induction rs with
  | nil => exact .ok fun line hline => absurd hline List.not_mem_nil
  | cons r rest ih =>
    rw [List.forall_mem_cons] at hrs
    cases rest with
    | nil => exact eachLine_blocks hc hg r.blocks hrs.1
    | cons next rest =>
      refine (eachLine_blocks hc hg r.blocks hrs.1).bind fun lines hlines => ?_
      refine (ih hrs.2).bind fun others hothers => .ok ?_
      exact List.forall_mem_append.mpr
        ⟨hlines, List.forall_mem_cons.mpr ⟨Line.avoids_nil, hothers⟩⟩

end Layout

/-- A line of a diagnostic shows a character that is not printable and in no mark only if one of the
strings of the diagnostic does. -/
theorem Diagnostic.avoids_of_mem_layout {d : Diagnostic} {c : Char} {g : Glyphs}
    (hc : Text.isPrintable c = false) (hg : g.Avoids c) (hd : ∀ f ∈ d.fragments, f.Hides c)
    {lines : List Line} (hlines : d.layout g = .ok lines) {line : Line} (hline : line ∈ lines) :
    line.Avoids c := by
  refine Layout.eachLine_reports hc hg d.reports (fun r hr part hpart => ?_) lines hlines line hline
  refine Layout.ownAvoids_of_hides hc hg fun f hf => hd f (List.mem_flatMap.mpr ⟨r, hr, ?_⟩)
  exact Block.ownFragments_subset_of_mem_partsOfAll hpart hf

end Diagnostics
