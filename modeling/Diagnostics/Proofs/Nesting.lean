import Diagnostics.Proofs.Parts
import Diagnostics.Proofs.PhysicalLines
import Diagnostics.Proofs.Totality

/-!
# Blocks inside blocks

Layout only adds. The lines of a block are found in the lines of every block around it, in one run
and each behind what the blocks around it contribute to that line. What is contributed depends on
where the line lies in each of these blocks and not on what it shows, so a block can be replaced by
another without a change to the lines around it.
-/

namespace Diagnostics

/-- A block that holds a list of blocks and lays them out one after another. -/
inductive Group
  | container
  | steps (title finalMessage : String)

namespace Group

/-- The block that holds some blocks. -/
def hold : Group → List Block → Block
  | container, bs => .container bs
  | steps title finalMessage, bs => .steps title bs finalMessage

/-- The lines that a block takes up in a group: a step without lines takes up an empty one. -/
def shown : Group → List Line → List Line
  | container, lines => lines
  | steps _ _, [] => [[]]
  | steps _ _, line :: rest => line :: rest

/-- What a group puts in front of line `i` of a block in it: the branch leads the first line of a
step that is no separator, and the bar all other lines of steps. -/
def lead (g : Glyphs) (level : Severity) (separator : Bool) (i : ℕ) : Group → Line
  | container => []
  | steps _ _ =>
    [if i = 0 ∧ separator = false then Layout.stepBranch g level else Layout.stepBar g level]

/-- The lines of a group before those of its blocks. -/
def top (g : Glyphs) (level : Severity) : Group → List Line
  | container => []
  | steps title _ => Layout.stepsTitle g level title

/-- The lines of a group after those of its blocks. -/
def bottom (g : Glyphs) (level : Severity) : Group → List Line
  | container => []
  | steps _ finalMessage => Layout.stepsEnd g level finalMessage

end Group

/-- A block around a place in a tree, with the blocks beside that place. -/
inductive Layer
  | prefixed (lead : String)
  | among (group : Group) (before after : List Block)

namespace Layer

/-- The block that has another at its place. -/
def around : Layer → Block → Block
  | prefixed lead, b => .prefixed lead b
  | among group before after, b => group.hold (before ++ b :: after)

/-- The tree that has a block at a place, given by the layers around it from the outermost to the
innermost. -/
def fill (layers : List Layer) (b : Block) : Block :=
  layers.foldr around b

/-- The lines that a block takes up in a layer. -/
def shown : Layer → List Line → List Line
  | prefixed _, lines => lines
  | among group _ _, lines => group.shown lines

/-- What a layer puts in front of line `i` of the block in it. -/
def lead (g : Glyphs) (level : Severity) (separator : Bool) (i : ℕ) : Layer → Line
  | prefixed lead => [{ text := lead }]
  | among group _ _ => group.lead g level separator i

end Layer

namespace Layout

section Behind

variable {α : Type} [Append α]

/-- Lines, each with what stands in front of it. -/
def behind (front : ℕ → α) (lines : List α) : List α :=
  lines.mapIdx fun i line => front i ++ line

/-- There are as many lines with something in front. -/
@[simp] theorem length_behind (front : ℕ → α) (lines : List α) :
    (behind front lines).length = lines.length :=
  List.length_mapIdx

/-- Each line has its own front. -/
@[simp] theorem behind_getElem? (front : ℕ → α) (lines : List α) (i : ℕ) :
    (behind front lines)[i]? = lines[i]?.map (front i ++ ·) :=
  List.getElem?_mapIdx

/-- The first line and the lines after it. -/
theorem behind_cons (front : ℕ → α) (line : α) (lines : List α) :
    behind front (line :: lines) = (front 0 ++ line) :: behind (fun i => front (i + 1)) lines :=
  List.mapIdx_cons

/-- The places of later lines are counted from the first. -/
theorem behind_append (front : ℕ → α) (lines others : List α) :
    behind front (lines ++ others) =
      behind front lines ++ behind (fun i => front (i + lines.length)) others :=
  List.mapIdx_append

/-- What stands in front of all lines alike. -/
theorem behind_const (front : α) (lines : List α) :
    behind (fun _ => front) lines = lines.map (front ++ ·) := by
  refine List.ext_getElem? fun i => ?_
  rw [behind_getElem?, List.getElem?_map]

end Behind

/-- What stands in front of lines has in turn something in front of it. -/
theorem behind_behind (outer inner : ℕ → Line) (lines : List Line) :
    behind outer (behind inner lines) = behind (fun i => outer i ++ inner i) lines := by
  refine List.ext_getElem? fun i => ?_
  rw [behind_getElem?, behind_getElem?, behind_getElem?, Option.map_map]
  congr 1
  funext line
  exact (List.append_assoc _ _ _).symm

/-- Pieces in front of lines are printed in front of them. -/
theorem map_print_behind (front : ℕ → Line) (lines : List Line) (color : Bool) :
    (behind front lines).map (Line.print color) =
      behind (fun i => (front i).print color) (lines.map (Line.print color)) := by
  refine List.ext_getElem? fun i => ?_
  rw [List.getElem?_map, behind_getElem?, behind_getElem?, List.getElem?_map, Option.map_map,
    Option.map_map]
  congr 1
  funext line
  simp only [Function.comp_apply, Line.print, List.map_append, String.join_append]

variable (g : Glyphs) (level : Severity)

/-- The lines of a block; none if a value in it is not a block. -/
def linesOf (b : Block) : List Line :=
  (block g level b).toOption.getD []

/-- The lines of a block as they stand in a group. -/
def item : Group → Block → List Line
  | .container, b => linesOf g level b
  | .steps _ _, b =>
    step (if isSeparator b then stepBar g level else stepBranch g level) (stepBar g level)
      (linesOf g level b)

variable {g level}

/-- A tree of blocks has its lines. -/
theorem block_eq_linesOf {b : Block} (h : b.foreigns = []) :
    block g level b = .ok (linesOf g level b) := by
  have hlaid := block_failsFor g level b
  rw [h] at hlaid
  obtain ⟨lines, hlines⟩ := hlaid
  rw [linesOf, hlines]
  rfl

/-- Trees of blocks one after another. -/
theorem blocks_eq_flatMap {bs : List Block} (h : Block.foreignsOfAll bs = []) :
    blocks g level bs = .ok (bs.flatMap (linesOf g level)) := by
  induction bs with
  | nil => rfl
  | cons b rest ih =>
    rw [Block.foreignsOfAll, List.append_eq_nil_iff] at h
    rw [blocks, block_eq_linesOf h.1, ih h.2, List.flatMap_cons]
    rfl

/-- Steps one after another. -/
theorem steps_eq_flatMap {bs : List Block} (h : Block.foreignsOfAll bs = [])
    (title finalMessage : String) :
    steps g level bs = .ok (bs.flatMap (item g level (.steps title finalMessage))) := by
  induction bs with
  | nil => rfl
  | cons b rest ih =>
    rw [Block.foreignsOfAll, List.append_eq_nil_iff] at h
    rw [steps, block_eq_linesOf h.1, ih h.2, List.flatMap_cons]
    rfl

/-- A group has the lines of its blocks in order, between lines of its own. -/
theorem block_hold {group : Group} {bs : List Block} (h : Block.foreignsOfAll bs = []) :
    block g level (group.hold bs) = .ok
      (group.top g level ++ bs.flatMap (item g level group) ++ group.bottom g level) := by
  cases group with
  | container =>
    rw [Group.hold, block, blocks_eq_flatMap h]
    exact congrArg Except.ok (List.append_nil _).symm
  | steps title finalMessage =>
    rw [Group.hold, block, steps_eq_flatMap h title finalMessage]
    rfl

/-- All lines of a step but the first stand behind the bar. -/
theorem lead_of_ne_zero (group : Group) (separator : Bool) {i : ℕ} (hi : i ≠ 0) :
    group.lead g level separator i = group.lead g level separator 1 := by
  cases group with
  | container => rfl
  | steps title finalMessage =>
    rw [Group.lead, Group.lead, if_neg (fun h => hi h.1), if_neg (fun h => Nat.one_ne_zero h.1)]

/-- In a group the lines of a block stand behind what the group puts in front of them. -/
theorem item_eq_behind (group : Group) (b : Block) :
    item g level group b = behind (fun i => group.lead g level (isSeparator b) i)
      (group.shown (linesOf g level b)) := by
  cases group with
  | container => exact ((behind_const [] _).trans (List.map_id _)).symm
  | steps title finalMessage =>
    have hlead : [if isSeparator b then stepBar g level else stepBranch g level] =
        (Group.steps title finalMessage).lead g level (isSeparator b) 0 := by
      rw [Group.lead]
      cases isSeparator b <;> rfl
    rw [item]
    cases linesOf g level b with
    | nil => exact congrArg (fun front => [front]) hlead
    | cons first rest =>
      rw [Group.shown, behind_cons, ← hlead, step]
      refine congrArg _ ?_
      exact (behind_const [stepBar g level] rest).symm

/-- The values in a group that are not blocks are those of its blocks. -/
theorem foreigns_hold (group : Group) (bs : List Block) :
    (group.hold bs).foreigns = Block.foreignsOfAll bs := by
  cases group <;> rfl

/-- The values in some blocks that are not blocks are found in one after the other. -/
theorem foreignsOfAll_append (bs others : List Block) :
    Block.foreignsOfAll (bs ++ others) = Block.foreignsOfAll bs ++ Block.foreignsOfAll others := by
  induction bs with
  | nil => rfl
  | cons b rest ih =>
    rw [List.cons_append, Block.foreignsOfAll, Block.foreignsOfAll, ih, List.append_assoc]

/-- A tree of blocks has a tree of blocks at each place. -/
theorem foreigns_of_around {layer : Layer} {b : Block} (h : (layer.around b).foreigns = []) :
    b.foreigns = [] := by
  cases layer with
  | prefixed lead => exact h
  | among group before after =>
    rw [Layer.around, foreigns_hold, foreignsOfAll_append, List.append_eq_nil_iff,
      Block.foreignsOfAll, List.append_eq_nil_iff] at h
    exact h.2.1

variable (g level) in
/-- The lines of a layer before those of the block in it. -/
def above : Layer → List Line
  | .prefixed _ => []
  | .among group before _ => group.top g level ++ before.flatMap (item g level group)

variable (g level) in
/-- The lines of a layer after those of the block in it. -/
def below : Layer → List Line
  | .prefixed _ => []
  | .among group _ after => after.flatMap (item g level group) ++ group.bottom g level

/-- The lines of a layer are lines of its own around those of the block in it, which stand behind
what the layer puts in front of them. -/
theorem linesOf_around {layer : Layer} {b : Block} (h : (layer.around b).foreigns = []) :
    linesOf g level (layer.around b) =
      above g level layer ++
        behind (fun i => layer.lead g level (isSeparator b) i)
          (layer.shown (linesOf g level b)) ++
        below g level layer := by
  refine Except.ok.inj (ε := Failure) ?_
  rw [← block_eq_linesOf h]
  cases layer with
  | prefixed lead =>
    have hb : b.foreigns = [] := h
    rw [Layer.around, block, block_eq_linesOf hb]
    simp only [above, below, Layer.lead, Layer.shown, behind_const, List.nil_append,
      List.append_nil]
    rfl
  | among group before after =>
    rw [Layer.around, block_hold (by rwa [← foreigns_hold group]), List.flatMap_append,
      List.flatMap_cons, item_eq_behind group b]
    simp only [above, below, Layer.lead, Layer.shown, List.append_assoc]

end Layout

namespace Layer

variable (g : Glyphs) (level : Severity)

/-- The number of lines of a tree before those of the block at a place. -/
def startLine (layers : List Layer) : ℕ :=
  (layers.map fun layer => (Layout.above g level layer).length).sum

/-- What the layers around a block put in front of line `i` of it, the outermost first. That line is
the line `startLine inner + i` of the block in the outermost layer. -/
def leads (separator : Bool) : List Layer → ℕ → Line
  | [], _ => []
  | layer :: inner, i =>
    layer.lead g level (inner.isEmpty && separator) (startLine g level inner + i) ++
      leads separator inner i

/-- The lines that a block takes up at a place, as the layer next to it has them. -/
def shownAt (layers : List Layer) (lines : List Line) : List Line :=
  layers.getLast?.elim lines fun layer => layer.shown lines

variable {g level}

/-- A block in a layer is laid out as a separator only if it is next to it. -/
theorem isSeparator_fill (layers : List Layer) (b : Block) :
    Layout.isSeparator (fill layers b) = (layers.isEmpty && Layout.isSeparator b) := by
  cases layers with
  | nil => exact (Bool.true_and _).symm
  | cons layer inner =>
    cases layer with
    | prefixed lead => rfl
    | among group before after => cases group <;> rfl

/-- Lines that are there are shown in every layer. -/
theorem shown_of_ne_nil (layer : Layer) {lines : List Line} (h : lines ≠ []) :
    layer.shown lines = lines := by
  obtain ⟨line, rest, rfl⟩ := List.exists_cons_of_ne_nil h
  cases layer with
  | prefixed lead => rfl
  | among group before after => cases group <;> rfl

/-- Lines that are there are shown at every place. -/
theorem shownAt_of_ne_nil (layers : List Layer) {lines : List Line} (h : lines ≠ []) :
    shownAt layers lines = lines := by
  rw [shownAt]
  cases layers.getLast? with
  | none => rfl
  | some layer => exact shown_of_ne_nil layer h

/-- A layer puts the same in front of all lines but the first. -/
theorem lead_of_ne_zero (layer : Layer) (separator : Bool) {i : ℕ} (hi : i ≠ 0) :
    layer.lead g level separator i = layer.lead g level separator 1 := by
  cases layer with
  | prefixed lead => rfl
  | among group before after => exact Layout.lead_of_ne_zero group separator hi

end Layer

namespace Layout

variable (g : Glyphs) (level : Severity)

/-- The lines of a block at a place in a tree. By induction on the layers from the outermost: the
lines that the inner ones put around the block are in turn put behind the lead of the outer one, and
those after the block are never first in it, so what is in front of them does not depend on the
block either. -/
theorem exists_linesOf_fill (layers : List Layer) (separator : Bool) :
    ∃ front back : List Line, front.length = Layer.startLine g level layers ∧
      ∀ b : Block, (Layer.fill layers b).foreigns = [] → isSeparator b = separator →
        Layer.shownAt layers (linesOf g level b) ≠ [] →
        linesOf g level (Layer.fill layers b) =
          front ++ behind (Layer.leads g level separator layers)
            (Layer.shownAt layers (linesOf g level b)) ++ back := by
  induction layers with
  | nil =>
    refine ⟨[], [], rfl, fun b _ _ _ => ?_⟩
    exact (((List.append_nil _).trans (behind_const [] _)).trans (List.map_id _)).symm
  | cons layer inner ih =>
    cases inner with
    | nil =>
      refine ⟨above g level layer, below g level layer, rfl, fun b hb hseparator _ => ?_⟩
      have hlines : linesOf g level (layer.around b) = _ := linesOf_around hb
      have hleads : Layer.leads g level separator [layer] =
          fun i => layer.lead g level (isSeparator b) i := by
        funext i
        change layer.lead g level separator (0 + i) ++ [] = _
        rw [List.append_nil, Nat.zero_add, hseparator]
      rw [hleads]
      exact hlines
    | cons next rest =>
      obtain ⟨front, back, hlength, hfill⟩ := ih
      let lead (i : ℕ) : Line := layer.lead g level false i
      refine ⟨above g level layer ++ behind lead front,
        back.map (lead 1 ++ ·) ++ below g level layer, ?_, fun b hb hseparator hne => ?_⟩
      · rw [List.length_append, length_behind, hlength]
        exact List.sum_cons.symm
      have hshown : Layer.shownAt (layer :: next :: rest) (linesOf g level b) =
          Layer.shownAt (next :: rest) (linesOf g level b) := rfl
      rw [hshown] at hne ⊢
      have hinner := hfill b (foreigns_of_around hb) hseparator hne
      generalize Layer.shownAt (next :: rest) (linesOf g level b) = run at hne hinner ⊢
      have hrun : 0 < run.length := List.length_pos_iff.mpr hne
      have hbody : linesOf g level (Layer.fill (next :: rest) b) ≠ [] := by
        rw [← List.length_pos_iff, hinner]
        simp only [List.length_append, length_behind]
        omega
      have hlines : linesOf g level (layer.around (Layer.fill (next :: rest) b)) = _ :=
        linesOf_around hb
      have hleads : behind (fun i => lead (i + front.length))
          (behind (Layer.leads g level separator (next :: rest)) run) =
            behind (Layer.leads g level separator (layer :: next :: rest)) run := by
        rw [behind_behind]
        refine congrArg (behind · run) (funext fun i => ?_)
        rw [hlength, Nat.add_comm]
        rfl
      have hback : behind (fun i => lead (i + (front.length + run.length))) back =
          back.map (lead 1 ++ ·) := by
        rw [← behind_const]
        refine congrArg (behind · back) (funext fun i => ?_)
        exact layer.lead_of_ne_zero false (by omega)
      rw [Layer.isSeparator_fill, Layer.shown_of_ne_nil _ hbody, hinner] at hlines
      refine hlines.trans ?_
      change _ ++ behind lead _ ++ _ = _
      rw [behind_append, behind_append, List.length_append, length_behind, hleads, hback]
      simp only [List.append_assoc]

end Layout

section Places

open Layer

/-- The blocks in two lists of blocks are found in one list after the other. -/
theorem Block.partsOfAll_append (bs others : List Block) :
    Block.partsOfAll (bs ++ others) = Block.partsOfAll bs ++ Block.partsOfAll others := by
  induction bs with
  | nil => rfl
  | cons b rest ih =>
    rw [List.cons_append, Block.partsOfAll, Block.partsOfAll, ih, List.append_assoc]

/-- The blocks in a block are in all blocks around it. -/
theorem Block.mem_parts_around {layer : Layer} {b part : Block} (h : part ∈ b.parts) :
    part ∈ (layer.around b).parts := by
  cases layer with
  | prefixed lead => exact List.mem_cons_of_mem _ h
  | among group before after =>
    have hmem : part ∈ Block.partsOfAll (before ++ b :: after) := by
      rw [Block.partsOfAll_append, Block.partsOfAll]
      exact List.mem_append_right _ (List.mem_append_left _ h)
    cases group <;> exact List.mem_cons_of_mem _ hmem

mutual

/-- A block in a block has a place there. -/
theorem Block.exists_fill_of_mem_parts {b part : Block} (h : part ∈ b.parts) :
    ∃ layers, fill layers part = b := by
  cases b with
  | prefixed lead child =>
    rcases List.mem_cons.mp h with rfl | h
    · exact ⟨[], rfl⟩
    · obtain ⟨layers, hchild⟩ := Block.exists_fill_of_mem_parts h
      exact ⟨.prefixed lead :: layers, congrArg _ hchild⟩
  | container children =>
    rcases List.mem_cons.mp h with rfl | h
    · exact ⟨[], rfl⟩
    · obtain ⟨before, layers, after, hall⟩ := Block.exists_fill_of_mem_partsOfAll h
      exact ⟨.among .container before after :: layers, congrArg _ hall⟩
  | steps title items finalMessage =>
    rcases List.mem_cons.mp h with rfl | h
    · exact ⟨[], rfl⟩
    · obtain ⟨before, layers, after, hall⟩ := Block.exists_fill_of_mem_partsOfAll h
      exact ⟨.among (.steps title finalMessage) before after :: layers,
        congrArg (Block.steps title · finalMessage) hall⟩
  | header _ | code _ | verbatim _ | separator _ | note _ _ | tag _ | stack _ | foreign _ =>
    rw [Block.parts, List.mem_singleton] at h
    subst h
    exact ⟨[], rfl⟩

/-- A block in some blocks has a place in one of them. -/
theorem Block.exists_fill_of_mem_partsOfAll {bs : List Block} {part : Block}
    (h : part ∈ Block.partsOfAll bs) :
    ∃ before layers after, before ++ fill layers part :: after = bs := by
  cases bs with
  | nil => exact absurd h List.not_mem_nil
  | cons b rest =>
    rw [Block.partsOfAll] at h
    rcases List.mem_append.mp h with h | h
    · obtain ⟨layers, hb⟩ := Block.exists_fill_of_mem_parts h
      exact ⟨[], layers, rest, congrArg (· :: rest) hb⟩
    · obtain ⟨before, layers, after, hall⟩ := Block.exists_fill_of_mem_partsOfAll h
      exact ⟨b :: before, layers, after, congrArg (b :: ·) hall⟩

end

/-- The blocks in a block are those that have a place in it. -/
theorem Block.mem_parts_iff {b part : Block} :
    part ∈ b.parts ↔ ∃ layers, fill layers part = b := by
  constructor
  · exact Block.exists_fill_of_mem_parts
  · rintro ⟨layers, rfl⟩
    induction layers with
    | nil => exact part.self_mem_parts
    | cons layer inner ih => exact Block.mem_parts_around ih

end Places

namespace Layout

variable {g : Glyphs} {level : Severity}

/-- A tree of blocks has a tree of blocks at each place. -/
theorem foreigns_of_fill {layers : List Layer} {b : Block}
    (h : (Layer.fill layers b).foreigns = []) : b.foreigns = [] := by
  induction layers with
  | nil => exact h
  | cons layer inner ih => exact ih (foreigns_of_around h)

/-- An innermost layer has its lines behind those of the layers around it. -/
theorem startLine_append (outer : List Layer) (layer : Layer) :
    Layer.startLine g level (outer ++ [layer]) =
      Layer.startLine g level outer + (above g level layer).length := by
  simp [Layer.startLine]

/-- A block takes up its lines in a group, and one line if it has none and is a step. -/
theorem length_shown (group : Group) (lines : List Line) :
    lines.length ≤ (group.shown lines).length ∧
      (lines ≠ [] → (group.shown lines).length = lines.length) := by
  cases group with
  | container => exact ⟨le_rfl, fun _ => rfl⟩
  | steps title finalMessage =>
    cases lines with
    | nil => exact ⟨Nat.zero_le _, fun h => absurd rfl h⟩
    | cons line rest => exact ⟨le_rfl, fun _ => rfl⟩

variable (g level) in
/-- A later block of a group starts behind the lines of an earlier one and of those between. -/
theorem startLine_of_later (outer : List Layer) (group : Group) (left middle right : List Block)
    (b c : Block) :
    Layer.startLine g level (outer ++ [.among group (left ++ b :: middle) right]) =
      Layer.startLine g level (outer ++ [.among group left (middle ++ c :: right)]) +
        (group.shown (linesOf g level b)).length +
        (middle.flatMap (item g level group)).length := by
  rw [startLine_append, startLine_append, above, above, List.flatMap_append, List.flatMap_cons,
    item_eq_behind group b]
  simp only [List.length_append, length_behind]
  omega

/-- The printed lines of a block at a place. -/
theorem render_fill {layers : List Layer} {b : Block} {front run back : List Line}
    (hb : (Layer.fill layers b).foreigns = []) {leads : ℕ → Line}
    (hlines : linesOf g level (Layer.fill layers b) = front ++ behind leads run ++ back)
    (color : Bool) :
    (Diagnostic.ofBlock level (Layer.fill layers b)).render g color =
      .ok (front.map (Line.print color) ++
        behind (fun i => (leads i).print color) (run.map (Line.print color)) ++
        back.map (Line.print color)) := by
  rw [Diagnostic.render_ofBlock (block_eq_linesOf hb), hlines, List.map_append, List.map_append,
    map_print_behind]

/-- Layout is additive. The blocks in a block are those that have a place in it, given by the layers
around them. Whatever stands at a place, the lines before it and after it are the same, as long as
it has lines and is a separator or is none: its own lines stand between them, in one run and in
order, each behind what the layers contribute to it, the outermost first. A step without lines takes
up one line there, which is what is put in front of it. And of two blocks in one list the later
starts behind the lines of the earlier, directly behind them if there is none between. -/
theorem render_additive (g : Glyphs) (level : Severity) (color : Bool) :
    (∀ b part : Block, part ∈ b.parts ↔ ∃ layers, Layer.fill layers part = b) ∧
    (∀ (layers : List Layer) (separator : Bool), ∃ front back : List String,
      front.length = Layer.startLine g level layers ∧
      ∀ b : Block, (Layer.fill layers b).foreigns = [] → isSeparator b = separator →
        ∃ lines, (Diagnostic.ofBlock level b).render g color = .ok lines ∧
          (lines ≠ [] →
            (Diagnostic.ofBlock level (Layer.fill layers b)).render g color =
              .ok (front ++
                behind (fun i => (Layer.leads g level separator layers i).print color) lines ++
                back)) ∧
          (∀ title finalMessage before after, lines = [] →
            layers.getLast? = some (.among (.steps title finalMessage) before after) →
            (Diagnostic.ofBlock level (Layer.fill layers b)).render g color =
              .ok (front ++ [(Layer.leads g level separator layers 0).print color] ++ back))) ∧
    (∀ (outer : List Layer) (group : Group) (left middle right : List Block) (b c : Block),
      let earlier := outer ++ [.among group left (middle ++ c :: right)]
      let later := outer ++ [.among group (left ++ b :: middle) right]
      Layer.fill earlier b = Layer.fill later c ∧
      (b.foreigns = [] → ∃ lines, (Diagnostic.ofBlock level b).render g color = .ok lines ∧
        Layer.startLine g level earlier + lines.length ≤ Layer.startLine g level later ∧
        (middle = [] → lines ≠ [] →
          Layer.startLine g level later = Layer.startLine g level earlier + lines.length))) := by
  refine ⟨fun b part => Block.mem_parts_iff, fun layers separator => ?_, ?_⟩
  · obtain ⟨front, back, hlength, hfill⟩ := exists_linesOf_fill g level layers
      separator
    refine ⟨front.map (Line.print color), back.map (Line.print color), ?_, ?_⟩
    · rw [List.length_map, hlength]
    intro b hb hseparator
    refine ⟨_, Diagnostic.render_ofBlock (block_eq_linesOf (foreigns_of_fill hb)) color, ?_, ?_⟩
    · intro hne
      have hlines : linesOf g level b ≠ [] := mt List.map_eq_nil_iff.mpr hne
      have hfill := hfill b hb hseparator
      rw [Layer.shownAt_of_ne_nil layers hlines] at hfill
      exact render_fill hb (hfill hlines) color
    · intro title finalMessage before after hnil hlast
      have hshown : Layer.shownAt layers (linesOf g level b) = [[]] := by
        rw [Layer.shownAt, hlast, List.map_eq_nil_iff.mp hnil]
        rfl
      have hfill := hfill b hb hseparator
      rw [hshown] at hfill
      rw [render_fill hb (hfill (List.cons_ne_nil _ _)) color]
      simp [behind, Line.print]
  · intro outer group left middle right b c
    dsimp only
    have hlater := startLine_of_later g level outer group left middle right b c
    obtain ⟨hle, heq⟩ := length_shown group (linesOf g level b)
    refine ⟨?_, fun hb => ⟨_, Diagnostic.render_ofBlock (block_eq_linesOf hb) color, ?_, ?_⟩⟩
    · simp [Layer.fill, Layer.around]
    · rw [List.length_map]
      omega
    · rintro rfl hne
      rw [List.length_map, hlater, heq (mt List.map_eq_nil_iff.mpr hne)]
      rfl

/-- A place in a step that is a container and has a tag before it, where a step without lines comes
first and a separator last. -/
def insideStep : List Layer :=
  [.prefixed "> ",
    .among (.steps "try" "") [.container []] [.separator ⟨2, '=', by decide⟩],
    .among .container [.tag "a"] []]

/-- The layers around that step. -/
def besideStep : List Layer :=
  [.prefixed "> ",
    .among (.steps "try" "") []
      [.container [.tag "a", .tag "b"], .separator ⟨2, '=', by decide⟩]]

/-- A note of two lines at the first place, and a tag instead of it; the step without lines, which
takes up one; and the two tags of a container, of which the second starts right behind the first. -/
theorem render_additive_insideStep :
    Block.note "see" "x\ny" ∈ (Layer.fill insideStep (.note "see" "x\ny")).parts ∧
    (∃ front back, front.length = 3 ∧
      (Diagnostic.ofBlock .warn (Layer.fill insideStep (.note "see" "x\ny"))).render .ascii false =
        .ok (front ++ ["> |   = see: x", "> |          y"] ++ back) ∧
      (Diagnostic.ofBlock .warn (Layer.fill insideStep (.tag "z"))).render .ascii false =
        .ok (front ++ ["> |   = z"] ++ back)) ∧
    (∃ front back, front.length = 1 ∧
      (Diagnostic.ofBlock .warn (Layer.fill besideStep (.container []))).render .ascii false =
        .ok (front ++ ["> |-> "] ++ back)) ∧
    Layer.startLine .ascii .warn (besideStep ++ [.among .container [.tag "a"] []]) =
      Layer.startLine .ascii .warn (besideStep ++ [.among .container [] [.tag "b"]]) + 1 := by
  obtain ⟨hparts, hplaces, hlists⟩ := render_additive .ascii .warn false
  obtain ⟨front, back, hlength, hfill⟩ := hplaces insideStep false
  obtain ⟨lines, hlines, hnote, -⟩ := hfill (.note "see" "x\ny") (by rfl) (by rfl)
  obtain ⟨others, hothers, htag, -⟩ := hfill (.tag "z") (by rfl) (by rfl)
  obtain rfl : ["= see: x", "       y"] = lines := Except.ok.inj hlines
  obtain rfl : ["= z"] = others := Except.ok.inj hothers
  obtain ⟨front', back', hlength', hfill'⟩ := hplaces besideStep false
  obtain ⟨nothing, hnothing, -, hstep⟩ := hfill' (.container []) (by rfl) (by rfl)
  obtain rfl : [] = nothing := Except.ok.inj hnothing
  obtain ⟨-, hbeside⟩ := hlists besideStep .container [] [] [] (.tag "a") (.tag "b")
  obtain ⟨first, hfirst, -, hnext⟩ := hbeside rfl
  obtain rfl : ["= a"] = first := Except.ok.inj hfirst
  exact ⟨(hparts _ _).mpr ⟨insideStep, rfl⟩,
    ⟨front, back, hlength, hnote (by decide), htag (by decide)⟩,
    ⟨front', back', hlength', hstep _ _ _ _ rfl rfl⟩, hnext rfl (by decide)⟩

end Layout

end Diagnostics
