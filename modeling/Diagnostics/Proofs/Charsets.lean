import Diagnostics.Proofs.AlikeDrawings
import Diagnostics.Proofs.Parts
import Diagnostics.Proofs.Printing

/-!
# Switching the character set

A diagnostic has as many lines with the table of ASCII characters as with the table of box-drawing
characters. Lines with the metadata of a header are one column wider with the arrow of ASCII, and
all other lines correspond character by character. Which lines show metadata is said for each block
of a tree, and it is shown along the layout of the tree that these are the only ones that differ in
length.
-/

namespace Diagnostics

/-- A value of a header as it is shown, if it is given and to be shown. -/
def Header.shownValue (value : Option String) (shown : Bool) : List String :=
  if shown then (Text.nonempty? value).toList else []

/-- The values of a header that are shown as its metadata. -/
def Header.metadata (h : Header) : List String :=
  shownValue h.location h.showLocation ++ shownValue h.timestamp h.showTimestamp ++
    shownValue h.threadId h.showThread

namespace Layout

/-- Lines of which none shows metadata. -/
def unmarked (lines : List Line) : List Bool :=
  List.replicate lines.length false

/-- For each line of a step whether it shows metadata. A step without lines takes up one. -/
def stepMarks : List Bool → List Bool
  | [] => [false]
  | marks => marks

mutual

/-- For each line of a block whether it shows metadata of a header: in a header the lines of its
metadata do, and no other block has such lines of its own. -/
def marks (g : Glyphs) (level : Severity) : Block → List Bool
  | .header h =>
    List.replicate (Text.physicalLines h.title).length false ++
      List.replicate (h.metadata.flatMap Text.physicalLines).length true
  | .prefixed _ child => marks g level child
  | .container children => marksOfAll g level children
  | .steps title items finalMessage =>
    unmarked (stepsTitle g level title) ++ marksOfSteps g level items ++
      unmarked (stepsEnd g level finalMessage)
  | b => unmarked ((block g level b).toOption.getD [])

/-- For each line of some blocks whether it shows metadata. -/
def marksOfAll (g : Glyphs) (level : Severity) : List Block → List Bool
  | [] => []
  | b :: rest => marks g level b ++ marksOfAll g level rest

/-- For each line of some steps whether it shows metadata. -/
def marksOfSteps (g : Glyphs) (level : Severity) : List Block → List Bool
  | [] => []
  | b :: rest => stepMarks (marks g level b) ++ marksOfSteps g level rest

end

/-- For each line of some reports whether it shows metadata. -/
def marksOfReports (g : Glyphs) : List Report → List Bool
  | [] => []
  | [r] => marksOfAll g r.kind r.blocks
  | r :: rest => marksOfAll g r.kind r.blocks ++ false :: marksOfReports g rest

/-- Two layouts line by line: lines that show metadata are one column apart, and all others are
alike. -/
inductive Matched (g g' : Glyphs) : List Bool → List Line → List Line → Prop
  | nil : Matched g g' [] [] []
  | alike {marks : List Bool} {as bs : List Line} {a b : Line} (h : Line.Alike g g' a b)
      (rest : Matched g g' marks as bs) : Matched g g' (false :: marks) (a :: as) (b :: bs)
  | wider {marks : List Bool} {as bs : List Line} {a b : Line} (h : Line.OneWider a b)
      (rest : Matched g g' marks as bs) : Matched g g' (true :: marks) (a :: as) (b :: bs)

section Matched

variable {g g' : Glyphs} {ms ms' : List Bool} {as bs as' bs' : List Line}

/-- Layouts one after another. -/
theorem Matched.append (h : Matched g g' ms as bs) (h' : Matched g g' ms' as' bs') :
    Matched g g' (ms ++ ms') (as ++ as') (bs ++ bs') := by
  induction h with
  | nil => exact h'
  | alike hline rest ih => exact .alike hline ih
  | wider hline rest ih => exact .wider hline ih

/-- Lines that are alike and show no metadata. -/
theorem Matched.of_alike (h : List.Forall₂ (Line.Alike g g') as bs) :
    Matched g g' (unmarked as) as bs := by
  induction h with
  | nil => exact .nil
  | cons hline rest ih => exact .alike hline ih

/-- Lines of metadata. -/
theorem Matched.of_wider (h : List.Forall₂ Line.OneWider as bs) :
    Matched g g' (List.replicate as.length true) as bs := by
  induction h with
  | nil => exact .nil
  | cons hline rest ih => exact .wider hline ih

/-- A piece in front of every line. -/
theorem Matched.map_cons {p q : Piece} (hpiece : Piece.Alike g g' p q)
    (h : Matched g g' ms as bs) : Matched g g' ms (as.map (p :: ·)) (bs.map (q :: ·)) := by
  induction h with
  | nil => exact .nil
  | alike hline rest ih => exact .alike (.cons hpiece hline) ih
  | wider hline rest ih => exact .wider (.cons hpiece hline) ih

/-- A lead in front of the first line and a bar in front of the others. -/
theorem Matched.step {lead lead' bar bar' : Piece} (hlead : Piece.Alike g g' lead lead')
    (hbar : Piece.Alike g g' bar bar') (h : Matched g g' ms as bs) :
    Matched g g' (stepMarks ms) (step lead bar as) (step lead' bar' bs) := by
  cases h with
  | nil => exact .alike (.cons hlead .nil) .nil
  | alike hline rest => exact .alike (.cons hlead hline) (rest.map_cons hbar)
  | wider hline rest => exact .wider (.cons hlead hline) (rest.map_cons hbar)

/-- Each line has a mark and a line of the other layout. -/
theorem Matched.length_eq (h : Matched g g' ms as bs) :
    ms.length = as.length ∧ as.length = bs.length := by
  induction h with
  | nil => exact ⟨rfl, rfl⟩
  | alike hline rest ih => exact ⟨congrArg (· + 1) ih.1, congrArg (· + 1) ih.2⟩
  | wider hline rest ih => exact ⟨congrArg (· + 1) ih.1, congrArg (· + 1) ih.2⟩

/-- Layouts without metadata are alike in every line. -/
theorem Matched.forall₂_alike (h : Matched g g' ms as bs) (hms : true ∉ ms) :
    List.Forall₂ (Line.Alike g g') as bs := by
  induction h with
  | nil => exact .nil
  | alike hline rest ih => exact .cons hline (ih fun hmem => hms (List.mem_cons_of_mem _ hmem))
  | wider hline rest ih => exact absurd List.mem_cons_self hms

/-- What a mark says of the two lines at its place. -/
theorem Matched.of_getElem? (h : Matched g g' ms as bs) {i : ℕ} {a b : Line}
    (ha : as[i]? = some a) (hb : bs[i]? = some b) :
    (ms[i]? = some true → Line.OneWider a b) ∧ (ms[i]? = some false → Line.Alike g g' a b) := by
  induction h generalizing i with
  | nil => cases ha
  | alike hline rest ih =>
    cases i with
    | zero =>
      obtain rfl := Option.some.inj ha
      obtain rfl := Option.some.inj hb
      exact ⟨fun h => absurd (Option.some.inj h) (by decide), fun _ => hline⟩
    | succ i => exact ih ha hb
  | wider hline rest ih =>
    cases i with
    | zero =>
      obtain rfl := Option.some.inj ha
      obtain rfl := Option.some.inj hb
      exact ⟨fun _ => hline, fun h => absurd (Option.some.inj h) (by decide)⟩
    | succ i => exact ih ha hb

end Matched

/-- A step shows metadata where its lines do. -/
theorem not_mem_stepMarks {ms : List Bool} (h : true ∉ ms) : true ∉ stepMarks ms := by
  cases ms with
  | nil => decide
  | cons mark rest => exact h

variable {g g' : Glyphs}

/-- The title of a header takes up as many lines as it has. -/
theorem length_headerTitle (level : Severity) (h : Header) :
    (headerTitle level h).length = (Text.physicalLines h.title).length := by
  simp only [headerTitle, String.isEmpty_iff]
  split
  · rename_i hempty
    rw [hempty]
    rfl
  · exact length_hanging _ _ _

/-- A value of a header takes up as many lines as it has, if it is shown. -/
theorem length_headerField (g : Glyphs) (level : Severity) (label : String)
    (value : Option String) (shown : Bool) :
    (headerField g level label value shown).length =
      ((Header.shownValue value shown).flatMap Text.physicalLines).length := by
  unfold headerField Header.shownValue
  cases Text.nonempty? value with
  | none => cases shown <;> rfl
  | some text =>
    cases shown with
    | false => rfl
    | true => simp [length_hanging]

/-- A header. -/
theorem matched_header (hg : g.Twins g') (level : Severity) (h : Header) :
    Matched g g' (marks g level (.header h)) (header g level h) (header g' level h) := by
  have htitle : Matched g g' (unmarked (headerTitle level h)) (headerTitle level h)
      (headerTitle level h) := .of_alike (List.forall₂_same.mpr fun line _ => .refl line)
  have hfield (label : String) (value : Option String) (shown : Bool) :=
    @Matched.of_wider g g' _ _ (oneWider_headerField hg level label value shown)
  have hall := ((htitle.append (hfield "in" h.location h.showLocation)).append
    (hfield "at" h.timestamp h.showTimestamp)).append (hfield "in thread" h.threadId h.showThread)
  have hmarks : marks g level (.header h) = unmarked (headerTitle level h) ++
      List.replicate (headerField g level "in" h.location h.showLocation).length true ++
      List.replicate (headerField g level "at" h.timestamp h.showTimestamp).length true ++
      List.replicate (headerField g level "in thread" h.threadId h.showThread).length true := by
    simp only [length_headerField, marks, unmarked, length_headerTitle, Header.metadata,
      List.flatMap_append, List.length_append, List.replicate_add, List.append_assoc]
  rw [hmarks]
  exact hall

/-- A block that has no metadata and no blocks in it, if its lines with the two tables are alike. -/
theorem matched_leaf {level : Severity} {b : Block} {as bs lines lines' : List Line}
    (has : block g level b = .ok as) (hbs : block g' level b = .ok bs)
    (hlines : block g level b = .ok lines) (hlines' : block g' level b = .ok lines')
    (h : List.Forall₂ (Line.Alike g g') lines lines') :
    Matched g g' (unmarked ((block g level b).toOption.getD [])) as bs := by
  obtain rfl := Except.ok.inj (has.symm.trans hlines)
  obtain rfl := Except.ok.inj (hbs.symm.trans hlines')
  rw [has]
  exact .of_alike h

section Trees

variable {level : Severity}

mutual

/-- A block laid out with two tables. -/
theorem matched_block (hg : g.Twins g') {b : Block} {as bs : List Line}
    (has : block g level b = .ok as) (hbs : block g' level b = .ok bs) :
    Matched g g' (marks g level b) as bs := by
  -- Lines of metadata come from headers only, and what contains blocks puts alike pieces in front.
  cases b with
  | header h =>
    obtain rfl := Except.ok.inj has
    obtain rfl := Except.ok.inj hbs
    exact matched_header hg level h
  | prefixed lead child =>
    obtain ⟨below, hbelow, rfl⟩ := exists_of_prefixed has
    obtain ⟨below', hbelow', rfl⟩ := exists_of_prefixed hbs
    exact (matched_block hg hbelow hbelow').map_cons (.refl _)
  | container children => exact matched_blocks hg has hbs
  | steps title items finalMessage =>
    obtain ⟨below, hbelow, rfl⟩ := exists_of_stepsBlock has
    obtain ⟨below', hbelow', rfl⟩ := exists_of_stepsBlock hbs
    exact ((Matched.of_alike (alike_stepsTitle hg level title)).append
      (matched_steps hg hbelow hbelow')).append (.of_alike (alike_stepsEnd hg level finalMessage))
  | code c => exact matched_leaf has hbs has hbs (Excerpt.alike_draw hg has hbs)
  | verbatim text =>
    exact matched_leaf has hbs rfl rfl (List.forall₂_same.mpr fun line _ => .refl line)
  | separator s =>
    exact matched_leaf has hbs rfl rfl (List.forall₂_same.mpr fun line _ => .refl line)
  | note title message => exact matched_leaf has hbs rfl rfl (alike_note hg level title message)
  | tag label => exact matched_leaf has hbs rfl rfl (alike_tag hg level label)
  | stack s => exact matched_leaf has hbs rfl rfl (alike_stack hg level s)
  | foreign value => cases has

/-- Blocks laid out with two tables. -/
theorem matched_blocks (hg : g.Twins g') {blks : List Block} {as bs : List Line}
    (has : blocks g level blks = .ok as) (hbs : blocks g' level blks = .ok bs) :
    Matched g g' (marksOfAll g level blks) as bs := by
  cases blks with
  | nil =>
    obtain rfl := Except.ok.inj has
    obtain rfl := Except.ok.inj hbs
    exact .nil
  | cons b rest =>
    obtain ⟨first, others, hfirst, hothers, rfl⟩ := exists_of_blocks_cons has
    obtain ⟨first', others', hfirst', hothers', rfl⟩ := exists_of_blocks_cons hbs
    exact (matched_block hg hfirst hfirst').append (matched_blocks hg hothers hothers')

/-- Steps laid out with two tables. -/
theorem matched_steps (hg : g.Twins g') {blks : List Block} {as bs : List Line}
    (has : steps g level blks = .ok as) (hbs : steps g' level blks = .ok bs) :
    Matched g g' (marksOfSteps g level blks) as bs := by
  cases blks with
  | nil =>
    obtain rfl := Except.ok.inj has
    obtain rfl := Except.ok.inj hbs
    exact .nil
  | cons b rest =>
    obtain ⟨first, others, hfirst, hothers, rfl⟩ := exists_of_steps_cons has
    obtain ⟨first', others', hfirst', hothers', rfl⟩ := exists_of_steps_cons hbs
    have hlead : Piece.Alike g g' (if isSeparator b then stepBar g level else stepBranch g level)
        (if isSeparator b then stepBar g' level else stepBranch g' level) := by
      split
      · exact alike_stepBar hg level
      · exact alike_stepBranch hg level
    exact ((matched_block hg hfirst hfirst').step hlead (alike_stepBar hg level)).append
      (matched_steps hg hothers hothers')

end

/-- Reports laid out with two tables. -/
theorem matched_reports (hg : g.Twins g') {rs : List Report} {as bs : List Line}
    (has : reports g rs = .ok as) (hbs : reports g' rs = .ok bs) :
    Matched g g' (marksOfReports g rs) as bs := by
  induction rs generalizing as bs with
  | nil =>
    obtain rfl := Except.ok.inj has
    obtain rfl := Except.ok.inj hbs
    exact .nil
  | cons r rest ih =>
    cases rest with
    | nil => exact matched_blocks hg has hbs
    | cons next rest =>
      obtain ⟨first, others, hfirst, hothers, rfl⟩ := exists_of_reports_cons has
      obtain ⟨first', others', hfirst', hothers', rfl⟩ := exists_of_reports_cons hbs
      exact (matched_blocks hg hfirst hfirst').append (.alike .nil (ih hothers hothers'))

mutual

/-- Only headers with metadata have lines that show it. -/
theorem not_mem_marks {b : Block} (h : ∀ header, .header header ∈ b.parts → header.metadata = []) :
    true ∉ marks g level b := by
  cases b with
  | header header =>
    rw [marks, h header List.mem_cons_self]
    simp
  | prefixed lead child =>
    have hchild : true ∉ marks g level child :=
      not_mem_marks fun header hmem => h header (List.mem_cons_of_mem _ hmem)
    exact hchild
  | container children =>
    exact not_mem_marksOfAll fun header hmem => h header (List.mem_cons_of_mem _ hmem)
  | steps title items finalMessage =>
    have hsteps : true ∉ marksOfSteps g level items :=
      not_mem_marksOfSteps fun header hmem => h header (List.mem_cons_of_mem _ hmem)
    simp [marks, unmarked, hsteps]
  | code _ | verbatim _ | separator _ | note _ _ | tag _ | stack _ | foreign _ =>
    simp [marks, unmarked]

/-- Only headers with metadata have lines that show it. -/
theorem not_mem_marksOfAll {bs : List Block}
    (h : ∀ header, .header header ∈ Block.partsOfAll bs → header.metadata = []) :
    true ∉ marksOfAll g level bs := by
  cases bs with
  | nil => exact List.not_mem_nil
  | cons b rest =>
    have hfirst : true ∉ marks g level b :=
      not_mem_marks fun header hmem => h header (List.mem_append_left _ hmem)
    have hrest : true ∉ marksOfAll g level rest :=
      not_mem_marksOfAll fun header hmem => h header (List.mem_append_right _ hmem)
    simp [marksOfAll, hfirst, hrest]

/-- Only headers with metadata have lines that show it. -/
theorem not_mem_marksOfSteps {bs : List Block}
    (h : ∀ header, .header header ∈ Block.partsOfAll bs → header.metadata = []) :
    true ∉ marksOfSteps g level bs := by
  cases bs with
  | nil => exact List.not_mem_nil
  | cons b rest =>
    have hfirst : true ∉ stepMarks (marks g level b) :=
      not_mem_stepMarks (not_mem_marks fun header hmem => h header (List.mem_append_left _ hmem))
    have hrest : true ∉ marksOfSteps g level rest :=
      not_mem_marksOfSteps fun header hmem => h header (List.mem_append_right _ hmem)
    simp [marksOfSteps, hfirst, hrest]

end

/-- Only headers with metadata have lines that show it. -/
theorem not_mem_marksOfReports {rs : List Report}
    (h : ∀ header, .header header ∈ rs.flatMap (fun r => Block.partsOfAll r.blocks) →
      header.metadata = []) : true ∉ marksOfReports g rs := by
  induction rs with
  | nil => exact List.not_mem_nil
  | cons r rest ih =>
    have hfirst : true ∉ marksOfAll g r.kind r.blocks :=
      not_mem_marksOfAll fun header hmem => h header (List.mem_append_left _ hmem)
    have hrest := ih fun header hmem => h header (List.mem_append_right _ hmem)
    cases rest with
    | nil => exact hfirst
    | cons next rest => simp [marksOfReports, hfirst, hrest]

end Trees

end Layout

namespace Diagnostic

/-- For each line of a diagnostic whether it shows metadata of a header. -/
def marks (d : Diagnostic) : List Bool :=
  Layout.marksOfReports .ascii d.reports

/-- The character set does not change the layout. A diagnostic of blocks, in colour or not, has as
many lines with the table of ASCII characters as with that of box-drawing characters. A line that
shows metadata of a header is one column wider in ASCII, and in any other line each character is the
same or stands at the same place of the same mark. So all lines are of one length if no header shows
metadata. -/
theorem render_same_layout {d : Diagnostic} (hblocks : d.foreigns = []) (color : Bool) :
    ∃ ascii boxes, d.render .ascii color = .ok ascii ∧ d.render .boxDrawing color = .ok boxes ∧
      ascii.length = boxes.length ∧ d.marks.length = ascii.length ∧
      (∀ (i : ℕ) (a b : String), ascii[i]? = some a → boxes[i]? = some b →
        (d.marks[i]? = some true → a.length = b.length + 1) ∧
        (d.marks[i]? = some false → Text.Alike .ascii .boxDrawing a b)) ∧
      ((∀ h, .header h ∈ d.parts → h.metadata = []) →
        List.Forall₂ (Text.Alike .ascii .boxDrawing) ascii boxes) := by
  obtain ⟨as, has, hascii⟩ := d.exists_layout_of_blocks hblocks .ascii
  obtain ⟨bs, hbs, hboxes⟩ := d.exists_layout_of_blocks hblocks .boxDrawing
  have hmatched : Layout.Matched .ascii .boxDrawing d.marks as bs :=
    Layout.matched_reports Glyphs.ascii_twins_boxDrawing has hbs
  obtain ⟨hmarks, hlength⟩ := hmatched.length_eq
  refine ⟨_, _, hascii color, hboxes color, ?_, ?_, fun i a b ha hb => ?_, fun hplain => ?_⟩
  · rw [List.length_map, List.length_map, hlength]
  · rw [List.length_map, hmarks]
  · rw [List.getElem?_map] at ha hb
    obtain ⟨line, hline, rfl⟩ := Option.map_eq_some_iff.mp ha
    obtain ⟨line', hline', rfl⟩ := Option.map_eq_some_iff.mp hb
    obtain ⟨hwider, halike⟩ := hmatched.of_getElem? hline hline'
    exact ⟨fun hmark => hwider hmark color, fun hmark => (halike hmark).print color⟩
  · have halike := hmatched.forall₂_alike (Layout.not_mem_marksOfReports hplain)
    refine List.forall₂_map_left_iff.mpr (List.forall₂_map_right_iff.mpr ?_)
    exact halike.imp fun _ _ hline => hline.print color

/-- A header with two lines of metadata in a step, with a header as the cause. -/
def located : Diagnostic where
  report := ⟨.error, [.steps "" [.prefixed "> " (.header
    { title := "a", location := some "b\nc", threadId := some "d", showThread := false })] "e"]⟩
  causes := [⟨.warn, [.header { title := "f", timestamp := some "" }]⟩]

/-- One of these diagnostics shows a location of two lines, the other shows no metadata. -/
theorem render_same_layout_located :
    located.foreigns = [] ∧ layered.foreigns = [] ∧
      located.marks = [false, false, true, true, false, false, false] ∧
      (∃ ascii boxes, located.render .ascii true = .ok ascii ∧
        located.render .boxDrawing true = .ok boxes ∧ ascii.length = boxes.length ∧
        located.marks.length = ascii.length) ∧
      ∃ ascii boxes, layered.render .ascii true = .ok ascii ∧
        layered.render .boxDrawing true = .ok boxes ∧
        List.Forall₂ (Text.Alike .ascii .boxDrawing) ascii boxes := by
  have hlocated : located.foreigns = [] := by rfl
  have hlayered : layered.foreigns = [] := by rfl
  have hmarks : located.marks = [false, false, true, true, false, false, false] := by decide
  have hplain : ∀ h, .header h ∈ layered.parts → h.metadata = [] := by
    intro h hmem
    simp [layered, parts, reports, Block.parts, Block.partsOfAll] at hmem
    subst hmem
    rfl
  obtain ⟨as, bs, has, hbs, hlength, hcount, -⟩ := render_same_layout hlocated true
  obtain ⟨as', bs', has', hbs', -, -, -, halike⟩ := render_same_layout hlayered true
  exact ⟨hlocated, hlayered, hmarks, ⟨as, bs, has, hbs, hlength, hcount⟩,
    ⟨as', bs', has', hbs', halike hplain⟩⟩

end Diagnostic

end Diagnostics
