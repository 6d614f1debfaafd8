import Diagnostics.Proofs.Building
import Mathlib.Data.Nat.Notation

/-!
# Operations inside operations

Operations on content can be performed on the builder of a diagnostic or inside a container, a lead
or an indentation, to any depth. Inside they run on a builder of their own, and a lead has another
shape for a single block than for none or several. Neither shows: the lines are those of the
operations performed directly, behind the leads around them, and a failure is the same one.
-/

namespace Diagnostics

/-- A diagnostic of some blocks without a cause. -/
def Diagnostic.ofBlocks (kind : Severity) (bs : List Block) : Diagnostic where
  report := ⟨kind, bs⟩

/-- What operations on a builder of content collect, or the failure that ends them. -/
def Op.contents (ops : List Op) : Except Failure (List Block) :=
  match collectAll ops [] with
  | .ok _ bs => .ok bs
  | .error failure _ => .error failure

/-- The diagnostic that operations build, or the failure that ends them. -/
def Builder.log (kind : Severity) (ops : List Op) : Except Failure Diagnostic :=
  match Op.runAll ops { kind } with
  | .ok _ b => .ok b.snapshot
  | .error failure _ => .error failure

/-- The printed lines of the diagnostic that operations build. -/
def Builder.printed (kind : Severity) (g : Glyphs) (color : Bool) (ops : List Op) :
    Except Failure (List String) := do
  let d ← log kind ops
  d.render g color

namespace Op

/-- Whether a builder of content offers an operation. -/
def isContent : Op → Bool
  | header _ | cause _ _ | build | render _ _ => false
  | _ => true

/-- An operation that holds others. -/
inductive Wrapper
  | container
  | prefixed (lead : String)
  | indent (size : ℕ)

namespace Wrapper

/-- The operation with others in it. -/
def op : Wrapper → List Op → Op
  | container, ops => .container ops
  | prefixed lead, ops => .prefixed lead ops
  | indent size, ops => .indent size ops

/-- What an operation puts in front of the lines of those in it. -/
def lead : Wrapper → String
  | container => ""
  | prefixed lead => lead
  | indent size => Text.spaces size

/-- The block that an operation adds for the blocks of those in it. -/
def hold : Wrapper → List Block → Block
  | container, bs => .container bs
  | prefixed lead, bs => .behind lead bs
  | indent size, bs => .behind (Text.spaces size) bs

end Wrapper

/-- Operations inside others, given from the outermost to the innermost. -/
def wrap (wrappers : List Wrapper) (ops : List Op) : List Op :=
  wrappers.foldr (fun wrapper inner => [wrapper.op inner]) ops

/-- What several operations around others put in front of their lines. -/
def leads (wrappers : List Wrapper) : String :=
  String.join (wrappers.map Wrapper.lead)

end Op

section Results

variable {α β : Type} {failure : Failure}

/-- What is done with a result leaves its failure. -/
theorem map_eq_error_iff {f : α → β} {result : Except Failure α} :
    result.map f = .error failure ↔ result = .error failure := by
  cases result <;> simp [Except.map]

/-- An empty lead does not show. -/
theorem map_lead_empty (result : Except Failure (List String)) :
    result.map (·.map ("" ++ ·)) = result := by
  cases result with
  | error failure => rfl
  | ok lines =>
    have hlines : lines.map ("" ++ ·) = lines :=
      (List.map_congr_left fun _ _ => String.empty_append).trans (List.map_id _)
    exact congrArg Except.ok hlines

/-- A lead in front of a lead is one lead. -/
theorem map_lead_map_lead (p q : String) (result : Except Failure (List String)) :
    (result.map (·.map (q ++ ·))).map (·.map (p ++ ·)) = result.map (·.map (p ++ q ++ ·)) := by
  cases result with
  | error failure => rfl
  | ok lines =>
    have hlines : (lines.map (q ++ ·)).map (p ++ ·) = lines.map (p ++ q ++ ·) := by
      rw [List.map_map]
      exact List.map_congr_left fun _ _ => String.append_assoc.symm
    exact congrArg Except.ok hlines

end Results

namespace Layout

variable {g : Glyphs} {level : Severity}

/-- Blocks are laid out alike whether a single one stands for itself or not. -/
theorem block_gather (bs : List Block) : block g level (.gather bs) = blocks g level bs := by
  match bs with
  | [] => rfl
  | [b] => exact (blocks_singleton g level b).symm
  | _ :: _ :: _ => rfl

end Layout

namespace Diagnostic

variable {kind : Severity} {g : Glyphs} {color : Bool}

/-- The blocks of a diagnostic without a cause are printed one after another. -/
theorem render_ofBlocks (bs : List Block) :
    (ofBlocks kind bs).render g color =
      (Layout.blocks g kind bs).map (·.map (Line.print color)) := rfl

/-- What an operation adds for some blocks is printed as they are, behind its lead. -/
theorem render_hold (wrapper : Op.Wrapper) (bs : List Block) :
    (ofBlocks kind [wrapper.hold bs]).render g color =
      ((ofBlocks kind bs).render g color).map (·.map (wrapper.lead ++ ·)) := by
  have hbehind (lead : String) :
      (ofBlocks kind [.behind lead bs]).render g color =
        ((ofBlocks kind bs).render g color).map (·.map (lead ++ ·)) := by
    rw [render_ofBlocks, render_ofBlocks, ← Block.prefixed_gather, Layout.blocks_singleton,
      Layout.block, Layout.block_gather]
    cases Layout.blocks g kind bs with
    | error failure => rfl
    | ok lines =>
      have hprint : (lines.map ({ text := lead } :: ·)).map (Line.print color) =
          (lines.map (Line.print color)).map (lead ++ ·) := by
        rw [List.map_map, List.map_map]
        exact List.map_congr_left fun line _ => String.join_cons
      exact congrArg Except.ok hprint
  cases wrapper with
  | container =>
    rw [Op.Wrapper.lead, map_lead_empty, render_ofBlocks, render_ofBlocks, Op.Wrapper.hold,
      Layout.blocks_singleton, Layout.block]
  | prefixed lead => exact hbehind lead
  | indent size => exact hbehind (Text.spaces size)

end Diagnostic

namespace Op

/-- The contents that operations collect are the blocks of each. -/
theorem contents_eq (ops : List Op) : contents ops = blocks ops := by
  have hends := ends_collectAll ops []
  cases hblocks : blocks ops with
  | error failure =>
    rw [hblocks] at hends
    obtain ⟨remains, hrun⟩ := hends
    rw [contents, hrun]
  | ok bs =>
    rw [hblocks] at hends
    have hrun : collectAll ops [] = .ok () bs := hends
    rw [contents, hrun]

/-- An operation on content adds its block at the root too. -/
theorem effect_of_isContent {op : Op} (hop : op.isContent = true) (b : Builder) :
    op.effect b = op.block.map .adds := by
  cases op with
  | header | cause | build | render => cases hop
  | add | text | code | separator | note | tag | stack | steps | container | prefixed | indent
  | invalid => rfl

/-- Operations on content add their blocks at the root too. -/
theorem effects_of_isContent {ops : List Op} (hops : ∀ op ∈ ops, op.isContent = true)
    (b : Builder) : effects b ops = (blocks ops).map (·.map .adds) := by
  induction ops generalizing b with
  | nil => rfl
  | cons op rest ih =>
    have hrest := ih fun op hop => hops op (List.mem_cons_of_mem _ hop)
    rw [effects, blocks, effect_of_isContent (hops op List.mem_cons_self)]
    cases op.block with
    | error failure => rfl
    | ok first =>
      change (effects _ rest).bind _ = Except.map _ ((blocks rest).bind _)
      rw [hrest]
      cases blocks rest with
      | error failure => rfl
      | ok others => rfl

/-- An operation that holds others is one on content. -/
theorem Wrapper.isContent_op (wrapper : Wrapper) (ops : List Op) :
    (wrapper.op ops).isContent = true := by
  cases wrapper <;> rfl

/-- An operation that holds others adds one block for theirs. -/
theorem Wrapper.block_op (wrapper : Wrapper) (ops : List Op) :
    (wrapper.op ops).block = (blocks ops).map wrapper.hold := by
  cases wrapper with
  | container | prefixed => rw [op, block]; rfl
  | indent size =>
    have hsize : ¬ (size : Int) < 0 := Int.not_lt.mpr (Int.natCast_nonneg size)
    rw [op, block, if_neg hsize]
    rfl

/-- Operations inside others are on content. -/
theorem isContent_wrap {ops : List Op} (hops : ∀ op ∈ ops, op.isContent = true)
    (wrappers : List Wrapper) : ∀ op ∈ wrap wrappers ops, op.isContent = true := by
  cases wrappers with
  | nil => exact hops
  | cons wrapper inner => exact List.forall_mem_singleton.mpr (wrapper.isContent_op _)

end Op

namespace Builder

open Op

/-- Operations build the diagnostic that they make up. -/
theorem log_eq_made (kind : Severity) (ops : List Op) : log kind ops = made kind ops := by
  have hends := ends_runAll ops { kind }
  rw [made]
  cases heffects : effects { kind } ops with
  | error failure =>
    rw [heffects] at hends
    obtain ⟨remains, hrun⟩ := hends
    rw [log, hrun]
    rfl
  | ok es =>
    rw [heffects] at hends
    have hrun : runAll ops { kind } = .ok () (Effect.applyAll es { kind }) := hends
    rw [log, hrun]
    exact congrArg Except.ok (Effect.snapshot_applyAll kind es)

/-- Operations on content build the diagnostic of their blocks. -/
theorem log_of_isContent (kind : Severity) {ops : List Op}
    (hops : ∀ op ∈ ops, op.isContent = true) :
    log kind ops = (Op.blocks ops).map (Diagnostic.ofBlocks kind) := by
  have hadds (bs : List Block) :
      Effect.diagnostic kind (bs.map .adds) = Diagnostic.ofBlocks kind bs := by
    have hadded : (bs.map Effect.adds).filterMap Effect.added = bs := by
      rw [List.filterMap_map]
      exact List.filterMap_some
    have hattached : (bs.map Effect.adds).filterMap Effect.attached = [] := by
      rw [List.filterMap_map, List.filterMap_eq_nil_iff]
      exact fun _ _ => rfl
    rw [Effect.diagnostic, hadded, hattached]
    rfl
  rw [log_eq_made, made, effects_of_isContent hops]
  cases Op.blocks ops with
  | error failure => rfl
  | ok bs => exact congrArg Except.ok (hadds bs)

section Content

variable {ops : List Op}

/-- An operation that holds others fails with their failure and is else printed as they are, behind
its lead. -/
theorem printed_op (kind : Severity) (g : Glyphs) (color : Bool)
    (hops : ∀ op ∈ ops, op.isContent = true) (wrapper : Wrapper) :
    printed kind g color [wrapper.op ops] =
      (printed kind g color ops).map (·.map (wrapper.lead ++ ·)) := by
  have hop : ∀ op ∈ [wrapper.op ops], op.isContent = true :=
    List.forall_mem_singleton.mpr (wrapper.isContent_op ops)
  rw [printed, printed, log_of_isContent kind hop, log_of_isContent kind hops, Op.blocks,
    wrapper.block_op]
  cases Op.blocks ops with
  | error failure => rfl
  | ok bs => exact Diagnostic.render_hold wrapper bs

/-- Operations inside others are printed as they are, behind all leads around them. -/
theorem printed_wrap (kind : Severity) (g : Glyphs) (color : Bool)
    (hops : ∀ op ∈ ops, op.isContent = true) (wrappers : List Wrapper) :
    printed kind g color (wrap wrappers ops) =
      (printed kind g color ops).map (·.map (leads wrappers ++ ·)) := by
  -- What is inside is content at every depth, so the outermost operation can be taken off.
  induction wrappers with
  | nil => exact (map_lead_empty _).symm
  | cons wrapper inner ih =>
    have hstep : printed kind g color (wrap (wrapper :: inner) ops) =
        (printed kind g color (wrap inner ops)).map (·.map (wrapper.lead ++ ·)) :=
      printed_op kind g color (isContent_wrap hops inner) wrapper
    have hleads : leads (wrapper :: inner) = wrapper.lead ++ leads inner := String.join_cons
    rw [hstep, ih, map_lead_map_lead, hleads]

/-- Of the operations around others only their leads can be seen. -/
theorem printed_wrap_congr (kind : Severity) (g : Glyphs) (color : Bool)
    (hops : ∀ op ∈ ops, op.isContent = true) {wrappers others : List Wrapper}
    (h : leads wrappers = leads others) :
    printed kind g color (wrap wrappers ops) = printed kind g color (wrap others ops) := by
  rw [printed_wrap kind g color hops, printed_wrap kind g color hops, h]

/-- Operations inside others fail as they do alone. -/
theorem contents_wrap_eq_error_iff (ops : List Op) (wrappers : List Wrapper) {failure : Failure} :
    contents (wrap wrappers ops) = .error failure ↔ contents ops = .error failure := by
  rw [contents_eq, contents_eq]
  induction wrappers with
  | nil => rfl
  | cons wrapper inner ih =>
    have hstep : Op.blocks (wrap (wrapper :: inner) ops) =
        (Op.blocks (wrap inner ops)).map fun bs => [wrapper.hold bs] := by
      change Op.blocks [wrapper.op (wrap inner ops)] = _
      rw [Op.blocks, wrapper.block_op]
      cases Op.blocks (wrap inner ops) <;> rfl
    rw [hstep, map_eq_error_iff, ih]

/-- Operations on content fail at the root as they do on a builder of content. -/
theorem log_wrap_eq_error_iff (kind : Severity) (hops : ∀ op ∈ ops, op.isContent = true)
    (wrappers : List Wrapper) {failure : Failure} :
    log kind (wrap wrappers ops) = .error failure ↔ contents ops = .error failure := by
  rw [log_of_isContent kind (isContent_wrap hops wrappers), map_eq_error_iff, ← contents_eq,
    contents_wrap_eq_error_iff]

/-- An indentation builds what a lead of spaces builds. -/
theorem log_indent (kind : Severity) (size : ℕ) (ops : List Op) :
    log kind [.indent size ops] = log kind [.prefixed (Text.spaces size) ops] := by
  have hblock : (Op.indent size ops).block = (Op.prefixed (Text.spaces size) ops).block :=
    ((Wrapper.indent size).block_op ops).trans
      ((Wrapper.prefixed (Text.spaces size)).block_op ops).symm
  have hblocks : Op.blocks [.indent size ops] = Op.blocks [.prefixed (Text.spaces size) ops] := by
    simp only [Op.blocks, hblock]
  rw [log_of_isContent kind (List.forall_mem_singleton.mpr rfl),
    log_of_isContent kind (List.forall_mem_singleton.mpr rfl), hblocks]

/-- An indentation by less than nothing fails, at the root and inside others. -/
theorem log_wrap_negativeIndent (kind : Severity) {size : Int} (hsize : size < 0) (ops : List Op)
    (wrappers : List Wrapper) :
    log kind (wrap wrappers [.indent size ops]) = .error .negativeIndent := by
  rw [log_wrap_eq_error_iff kind (List.forall_mem_singleton.mpr rfl), contents_eq, Op.blocks,
    Op.block, if_pos hsize]
  rfl

end Content

/-- Operations on content have the same lines and failures wherever they are performed. Inside
others, to any depth, they fail exactly if they do on a builder of content, with the same failure,
and are else printed as they are on the builder of a diagnostic, behind all leads around them. So a
lead stands in front of each line, a container does not show, and a lead or an indentation in a lead
is one lead. An indentation builds what a lead of spaces builds, and fails if it is less than
nothing. -/
theorem printed_like_direct (kind : Severity) {ops : List Op}
    (hops : ∀ op ∈ ops, op.isContent = true) :
    (∀ (wrappers : List Wrapper) (failure : Failure),
      log kind (wrap wrappers ops) = .error failure ↔ contents ops = .error failure) ∧
    (∀ (wrappers : List Wrapper) (g : Glyphs) (color : Bool),
      printed kind g color (wrap wrappers ops) =
        (printed kind g color ops).map (·.map (leads wrappers ++ ·))) ∧
    (∀ (g : Glyphs) (color : Bool) (p q : String) (n : ℕ),
      printed kind g color [.prefixed p ops] =
        (printed kind g color ops).map (·.map (p ++ ·)) ∧
      printed kind g color [.container ops] = printed kind g color ops ∧
      printed kind g color [.prefixed p [.prefixed q ops]] =
        printed kind g color [.prefixed (p ++ q) ops] ∧
      printed kind g color [.prefixed p [.indent n ops]] =
        printed kind g color [.prefixed (p ++ Text.spaces n) ops]) ∧
    (∀ n : ℕ, log kind [.indent n ops] = log kind [.prefixed (Text.spaces n) ops]) ∧
    (∀ n : Int, n < 0 → log kind [.indent n ops] = .error .negativeIndent ∧
      ∀ p, log kind [.prefixed p [.indent n ops]] = .error .negativeIndent) := by
  refine ⟨fun wrappers failure => log_wrap_eq_error_iff kind hops wrappers,
    fun wrappers g color => printed_wrap kind g color hops wrappers,
    fun g color p q n => ⟨printed_op kind g color hops (.prefixed p), ?_, ?_, ?_⟩,
    fun n => log_indent kind n ops, fun n hn => ⟨log_wrap_negativeIndent kind hn ops [], fun p =>
      log_wrap_negativeIndent kind hn ops [.prefixed p]⟩⟩
  · have hcontainer := printed_op kind g color hops .container
    rwa [Wrapper.lead, map_lead_empty] at hcontainer
  · have hleads : leads [.prefixed p, .prefixed q] = leads [.prefixed (p ++ q)] := by
      simp [leads, Wrapper.lead]
    exact printed_wrap_congr kind g color hops hleads
  · have hleads : leads [.prefixed p, .indent n] = leads [.prefixed (p ++ Text.spaces n)] := by
      simp [leads, Wrapper.lead]
    exact printed_wrap_congr kind g color hops hleads

/-- A tag and a text of two lines indented behind a lead, and a header where only content is
offered, after a tag and inside a container. -/
theorem printed_like_direct_indented :
    printed .warn .ascii false [.prefixed "> " [.indent 2 [.tag "a", .text "b\nc"]]] =
      .ok [">   = a", ">   b", ">   c"] ∧
    log .warn [.prefixed "> " [.tag "a", .container [.header {}]]] =
      .error (.notOffered "header") := by
  have hcontent : ∀ op ∈ [Op.tag "a", .text "b\nc"], op.isContent = true := by decide
  have hfailing : ∀ op ∈ [Op.tag "a", .container [.header {}]], op.isContent = true := by decide
  obtain ⟨-, hlines, -⟩ := printed_like_direct .warn hcontent
  obtain ⟨hfails, -⟩ := printed_like_direct .warn hfailing
  refine ⟨(hlines [.prefixed "> ", .indent 2] .ascii false).trans ?_,
    (hfails [.prefixed "> "] _).mpr rfl⟩
  rfl

end Builder

end Diagnostics
