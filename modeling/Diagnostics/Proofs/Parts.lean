import Diagnostics.Layout.Tree
import Diagnostics.Proofs.Fragments
import Diagnostics.Proofs.Results

/-!
# The blocks in a block

A block is a tree, and one list holds the block itself and all blocks below it. What is said of
every block of a tree is said through this list. Layout keeps the lines of each block in it: they
are lines of the whole, with pieces in front that the blocks around it contribute.
-/

namespace Diagnostics

mutual

/-- A block and all blocks in it, in layout order. -/
def Block.parts : Block → List Block
  | .prefixed lead child => .prefixed lead child :: child.parts
  | .container children => .container children :: Block.partsOfAll children
  | .steps title items finalMessage =>
    .steps title items finalMessage :: Block.partsOfAll items
  | .header h => [.header h]
  | .code c => [.code c]
  | .verbatim text => [.verbatim text]
  | .separator s => [.separator s]
  | .note title message => [.note title message]
  | .tag label => [.tag label]
  | .stack s => [.stack s]
  | .foreign value => [.foreign value]

/-- Some blocks and all blocks in them, in layout order. -/
def Block.partsOfAll : List Block → List Block
  | [] => []
  | b :: rest => b.parts ++ Block.partsOfAll rest

end

/-- All blocks of a diagnostic and its causes, in layout order. -/
def Diagnostic.parts (d : Diagnostic) : List Block :=
  d.reports.flatMap fun r => Block.partsOfAll r.blocks

/-- The strings that a block holds itself, without those of the blocks in it. -/
def Block.ownFragments : Block → List Fragment
  | .header h => h.fragments
  | .prefixed lead _ => [⟨lead, .nowhere⟩]
  | .code c => c.fragments
  | .verbatim text => text.lines.map (⟨·, .atBoundaries⟩)
  | .container _ => []
  | .separator s => [⟨String.singleton s.character, .atFeeds⟩]
  | .note title message => [⟨title, .atBoundaries⟩, ⟨message, .atBoundaries⟩]
  | .tag label => [⟨label, .atBoundaries⟩]
  | .stack s => s.fragments
  | .steps title _ finalMessage => [⟨title, .atBoundaries⟩, ⟨finalMessage, .atBoundaries⟩]
  | .foreign _ => []

/-- Every block is a part of itself. -/
theorem Block.self_mem_parts (b : Block) : b ∈ b.parts := by
  cases b <;> exact List.mem_cons_self

mutual

/-- The strings that a block in a block holds are strings of the whole. -/
theorem Block.ownFragments_subset_of_mem_parts {b part : Block} (hpart : part ∈ b.parts) :
    part.ownFragments ⊆ b.fragments := by
  cases b with
  | prefixed lead child =>
    rcases List.mem_cons.mp hpart with rfl | hpart
    · exact List.cons_subset_cons _ (List.nil_subset _)
    · exact List.Subset.trans (Block.ownFragments_subset_of_mem_parts hpart)
        (List.subset_cons_self _ _)
  | container children =>
    rcases List.mem_cons.mp hpart with rfl | hpart
    · exact List.nil_subset _
    · exact Block.ownFragments_subset_of_mem_partsOfAll hpart
  | steps title items finalMessage =>
    rw [Block.fragments]
    rcases List.mem_cons.mp hpart with rfl | hpart
    · exact List.cons_subset_cons _ (List.cons_subset_cons _ (List.nil_subset _))
    · refine List.Subset.trans (Block.ownFragments_subset_of_mem_partsOfAll hpart) ?_
      exact List.Subset.trans (List.subset_cons_self _ _) (List.subset_cons_self _ _)
  | header _ | code _ | verbatim _ | separator _ | note _ _ | tag _ | stack _ | foreign _ =>
    rw [Block.parts, List.mem_singleton] at hpart
    subst hpart
    exact List.Subset.refl _

/-- The strings that a block in some blocks holds are strings of them all. -/
theorem Block.ownFragments_subset_of_mem_partsOfAll {bs : List Block} {part : Block}
    (hpart : part ∈ Block.partsOfAll bs) : part.ownFragments ⊆ Block.fragmentsOfAll bs := by
  cases bs with
  | nil => exact absurd hpart List.not_mem_nil
  | cons b rest =>
    rw [Block.fragmentsOfAll]
    rcases List.mem_append.mp hpart with hpart | hpart
    · exact List.Subset.trans (Block.ownFragments_subset_of_mem_parts hpart)
        (List.subset_append_left _ _)
    · exact List.Subset.trans (Block.ownFragments_subset_of_mem_partsOfAll hpart)
        (List.subset_append_right _ _)

end

namespace Layout

/-- Each of some lines is among others once pieces are put in front of it. -/
def Within (inner lines : List Line) : Prop :=
  ∀ line ∈ inner, ∃ front, front ++ line ∈ lines

section Within

variable {inner lines : List Line}

/-- Lines are within themselves. -/
theorem Within.refl (lines : List Line) : Within lines lines :=
  fun _ hline => ⟨[], hline⟩

/-- Lines are within any lines that hold those they are within. -/
theorem Within.of_subset {others : List Line} (h : Within inner lines) (hsubset : lines ⊆ others) :
    Within inner others := by
  intro line hline
  obtain ⟨front, hfront⟩ := h line hline
  exact ⟨front, hsubset hfront⟩

/-- A piece in front of every line. -/
theorem Within.map_cons (h : Within inner lines) (lead : Piece) :
    Within inner (lines.map (lead :: ·)) := by
  intro line hline
  obtain ⟨front, hfront⟩ := h line hline
  exact ⟨lead :: front, List.mem_map.mpr ⟨_, hfront, rfl⟩⟩

/-- A step puts its lead in front of the first line and its bar in front of the others. -/
theorem Within.step (h : Within inner lines) (lead bar : Piece) :
    Within inner (step lead bar lines) := by
  intro line hline
  obtain ⟨front, hfront⟩ := h line hline
  cases lines with
  | nil => exact absurd hfront List.not_mem_nil
  | cons first rest =>
    rcases List.mem_cons.mp hfront with heq | hfront
    · exact ⟨lead :: front, by rw [← heq]; exact List.mem_cons_self⟩
    · exact ⟨bar :: front, List.mem_cons_of_mem _ (List.mem_map.mpr ⟨_, hfront, rfl⟩)⟩

end Within

variable {g : Glyphs} {level : Severity}

section Results

variable {lines : List Line}

/-- The lines of a block with a lead are those of the block, each behind the lead. -/
theorem exists_of_prefixed {lead : String} {child : Block}
    (h : block g level (.prefixed lead child) = .ok lines) :
    ∃ below, block g level child = .ok below ∧ lines = below.map ({ text := lead } :: ·) := by
  obtain ⟨below, hbelow, hlines⟩ := exists_of_bind_eq_ok h
  exact ⟨below, hbelow, (Except.ok.inj hlines).symm⟩

/-- The lines of a list of steps stand between its title and its end. -/
theorem exists_of_stepsBlock {title finalMessage : String} {items : List Block}
    (h : block g level (.steps title items finalMessage) = .ok lines) :
    ∃ below, steps g level items = .ok below ∧
      lines = stepsTitle g level title ++ below ++ stepsEnd g level finalMessage := by
  obtain ⟨below, hbelow, hlines⟩ := exists_of_bind_eq_ok h
  exact ⟨below, hbelow, (Except.ok.inj hlines).symm⟩

/-- The lines of blocks are those of the first and those of the others. -/
theorem exists_of_blocks_cons {b : Block} {rest : List Block}
    (h : blocks g level (b :: rest) = .ok lines) :
    ∃ first others, block g level b = .ok first ∧ blocks g level rest = .ok others ∧
      lines = first ++ others := by
  obtain ⟨first, hfirst, h⟩ := exists_of_bind_eq_ok h
  obtain ⟨others, hothers, hlines⟩ := exists_of_bind_eq_ok h
  exact ⟨first, others, hfirst, hothers, (Except.ok.inj hlines).symm⟩

/-- The lines of steps are those of the first, behind its branch, and those of the others. -/
theorem exists_of_steps_cons {b : Block} {rest : List Block}
    (h : steps g level (b :: rest) = .ok lines) :
    ∃ first others, block g level b = .ok first ∧ steps g level rest = .ok others ∧
      lines = step (if isSeparator b then stepBar g level else stepBranch g level)
        (stepBar g level) first ++ others := by
  obtain ⟨first, hfirst, h⟩ := exists_of_bind_eq_ok h
  obtain ⟨others, hothers, hlines⟩ := exists_of_bind_eq_ok h
  exact ⟨first, others, hfirst, hothers, (Except.ok.inj hlines).symm⟩

/-- The lines of reports are those of the first, an empty line and those of the others. -/
theorem exists_of_reports_cons {r next : Report} {rest : List Report}
    (h : reports g (r :: next :: rest) = .ok lines) :
    ∃ first others, blocks g r.kind r.blocks = .ok first ∧ reports g (next :: rest) = .ok others ∧
      lines = first ++ [] :: others := by
  obtain ⟨first, hfirst, h⟩ := exists_of_bind_eq_ok h
  obtain ⟨others, hothers, hlines⟩ := exists_of_bind_eq_ok h
  exact ⟨first, others, hfirst, hothers, (Except.ok.inj hlines).symm⟩

end Results

mutual

/-- The lines of every block in a block are within the lines of the whole. -/
theorem within_block {b part : Block} {lines : List Line} (hlines : block g level b = .ok lines)
    (hpart : part ∈ b.parts) : ∃ inner, block g level part = .ok inner ∧ Within inner lines := by
  cases b with
  | prefixed lead child =>
    rcases List.mem_cons.mp hpart with rfl | hpart
    · exact ⟨lines, hlines, .refl lines⟩
    · obtain ⟨below, hbelow, rfl⟩ := exists_of_prefixed hlines
      obtain ⟨inner, hinner, hwithin⟩ := within_block hbelow hpart
      exact ⟨inner, hinner, hwithin.map_cons _⟩
  | container children =>
    rcases List.mem_cons.mp hpart with rfl | hpart
    · exact ⟨lines, hlines, .refl lines⟩
    · exact within_blocks hlines hpart
  | steps title items finalMessage =>
    rcases List.mem_cons.mp hpart with rfl | hpart
    · exact ⟨lines, hlines, .refl lines⟩
    · obtain ⟨below, hbelow, rfl⟩ := exists_of_stepsBlock hlines
      obtain ⟨inner, hinner, hwithin⟩ := within_steps hbelow hpart
      refine ⟨inner, hinner, hwithin.of_subset fun line hline => ?_⟩
      exact List.mem_append_left _ (List.mem_append_right _ hline)
  | header _ | code _ | verbatim _ | separator _ | note _ _ | tag _ | stack _ | foreign _ =>
    rw [Block.parts, List.mem_singleton] at hpart
    subst hpart
    exact ⟨lines, hlines, .refl lines⟩

/-- The lines of every block in some blocks are within the lines of them all. -/
theorem within_blocks {bs : List Block} {part : Block} {lines : List Line}
    (hlines : blocks g level bs = .ok lines) (hpart : part ∈ Block.partsOfAll bs) :
    ∃ inner, block g level part = .ok inner ∧ Within inner lines := by
  cases bs with
  | nil => exact absurd hpart List.not_mem_nil
  | cons b rest =>
    obtain ⟨first, others, hfirst, hothers, rfl⟩ := exists_of_blocks_cons hlines
    rw [Block.partsOfAll] at hpart
    rcases List.mem_append.mp hpart with hpart | hpart
    · obtain ⟨inner, hinner, hwithin⟩ := within_block hfirst hpart
      exact ⟨inner, hinner, hwithin.of_subset (List.subset_append_left _ _)⟩
    · obtain ⟨inner, hinner, hwithin⟩ := within_blocks hothers hpart
      exact ⟨inner, hinner, hwithin.of_subset (List.subset_append_right _ _)⟩

/-- The lines of every block in some steps are within the lines of the steps. -/
theorem within_steps {bs : List Block} {part : Block} {lines : List Line}
    (hlines : steps g level bs = .ok lines) (hpart : part ∈ Block.partsOfAll bs) :
    ∃ inner, block g level part = .ok inner ∧ Within inner lines := by
  cases bs with
  | nil => exact absurd hpart List.not_mem_nil
  | cons b rest =>
    obtain ⟨first, others, hfirst, hothers, rfl⟩ := exists_of_steps_cons hlines
    rw [Block.partsOfAll] at hpart
    rcases List.mem_append.mp hpart with hpart | hpart
    · obtain ⟨inner, hinner, hwithin⟩ := within_block hfirst hpart
      exact ⟨inner, hinner, (hwithin.step _ _).of_subset (List.subset_append_left _ _)⟩
    · obtain ⟨inner, hinner, hwithin⟩ := within_steps hothers hpart
      exact ⟨inner, hinner, hwithin.of_subset (List.subset_append_right _ _)⟩

end

end Layout

end Diagnostics
