import Diagnostics.Builder

/-!
# What is built

An operation on content adds one block or fails, and which of the two depends on the operation
alone. At the root of a diagnostic an operation adds one block, attaches a cause, changes nothing or
fails. These effects are computed here without any builder that changes, and it is shown that
running an operation has its effect and that a failure takes back everything. So what is built is
the list of the effects of the operations that succeed.
-/

namespace Diagnostics

/-- The block for some blocks behind a lead. A single block is behind it by itself, none or several
are in a container. -/
def Block.behind (lead : String) : List Block → Block
  | [b] => .prefixed lead b
  | bs => .prefixed lead (.container bs)

/-- A diagnostic of some blocks. The reports of its cause come after its own. -/
def Diagnostic.caused (kind : Severity) (bs : List Block) : Option Diagnostic → Diagnostic
  | none => { report := ⟨kind, bs⟩, causes := [] }
  | some d => { report := ⟨kind, bs⟩, causes := d.report :: d.causes }

namespace Op

mutual

/-- The block that an operation adds to content. -/
def block : Op → Except Failure Block
  | add b => .ok b
  | text s => .ok (.verbatim (.ofText s))
  | code source spans options => (Code.make source spans options).map .code
  | separator width character => (Separator.make width character).map .separator
  | note title message => .ok (.note title message)
  | tag label => .ok (.tag label)
  | stack s => .ok (.stack s)
  | header _ => .error (.notOffered "header")
  | steps title ops finalMessage => (blocks ops).map fun bs => .steps title bs finalMessage
  | container ops => (blocks ops).map .container
  | prefixed lead ops => (blocks ops).map (.behind lead)
  | indent size ops =>
    if size < 0 then .error .negativeIndent
    else (blocks ops).map (.behind (.ofList (.replicate size.toNat ' ')))
  | cause _ _ => .error (.notOffered "cause")
  | build => .error (.notOffered "build")
  | render _ _ => .error (.notOffered "build")
  | invalid failure => .error failure

/-- The blocks that operations add to content, one for each. -/
def blocks : List Op → Except Failure (List Block)
  | [] => .ok []
  | op :: rest => do
    let b ← block op
    let bs ← blocks rest
    return b :: bs

end

end Op

/-- What an operation does to the builder of a diagnostic. -/
inductive Effect
  | adds (block : Block)
  | attaches (cause : Diagnostic)
  | nothing

namespace Effect

/-- The block that is added. -/
def added : Effect → Option Block
  | adds b => some b
  | attaches _ => none
  | nothing => none

/-- The cause that is attached. -/
def attached : Effect → Option Diagnostic
  | adds _ => none
  | attaches d => some d
  | nothing => none

/-- The builder after an effect. -/
def apply : Effect → Builder → Builder
  | adds block, b => { b with blocks := b.blocks ++ [block] }
  | attaches d, b => { b with cause := some d }
  | nothing, b => b

/-- The builder after some effects one after another. -/
def applyAll (effects : List Effect) (b : Builder) : Builder :=
  effects.foldl (fun b e => e.apply b) b

/-- The diagnostic that some effects make up: all the blocks that they add, in order, and the last
cause that they attach. -/
def diagnostic (kind : Severity) (effects : List Effect) : Diagnostic :=
  .caused kind (effects.filterMap added) (effects.filterMap attached).getLast?

end Effect

namespace Op

mutual

/-- The effect of an operation on the builder of a diagnostic. A cause is what its operations make
up on a builder of their own. -/
def effect (b : Builder) : Op → Except Failure Effect
  | header h => .ok (.adds (.header h))
  | cause kind ops =>
    (effects { kind := kind.getD b.kind } ops).map fun inner =>
      .attaches (Effect.diagnostic (kind.getD b.kind) inner)
  | build => .ok .nothing
  | render glyphs color =>
    ((Diagnostic.caused b.kind b.blocks b.cause).render glyphs color).map fun _ => .nothing
  | op => op.block.map .adds

/-- The effects of operations, each on the builder after those before it. -/
def effects (b : Builder) : List Op → Except Failure (List Effect)
  | [] => .ok []
  | op :: rest => do
    let first ← effect b op
    let others ← effects (first.apply b) rest
    return first :: others

end

/-- The diagnostic that operations make up when all have their effect, or the first failure among
them. -/
def made (kind : Severity) (ops : List Op) : Except Failure Diagnostic :=
  (effects { kind } ops).map (Effect.diagnostic kind)

end Op

namespace Building

variable {σ τ α β : Type}

/-- All or nothing: the state that work results in, or a failure and the state as it was. -/
def allOrNothing (s : σ) : Except Failure σ → EStateM.Result Failure σ Unit
  | .ok result => .ok () result
  | .error failure => .error failure s

/-- Work ends in the given state or with the given failure. Nothing is said of the state that a
failure leaves. -/
def Ends (work : Building σ Unit) (s : σ) : Except Failure σ → Prop
  | .ok result => work s = .ok () result
  | .error failure => ∃ remains, work s = .error failure remains

/-- Work gives the given result and leaves every state as it is. -/
def Takes (work : Building σ α) (result : Except Failure α) : Prop :=
  ∀ s, work s = match result with
    | .ok a => .ok a s
    | .error failure => .error failure s

/-- After a success work goes on. -/
theorem bind_of_ok {work : Building σ α} {s s' : σ} {a : α} (h : work s = .ok a s')
    (next : α → Building σ β) : (work >>= next) s = next a s' := by
  simp only [bind, EStateM.bind, h]

/-- A failure ends all work. -/
theorem bind_of_error {work : Building σ α} {s s' : σ} {failure : Failure}
    (h : work s = .error failure s') (next : α → Building σ β) :
    (work >>= next) s = .error failure s' := by
  simp only [bind, EStateM.bind, h]

/-- Work that is done wholly or not at all, with more work after it. -/
theorem ends_bind {work : Building σ Unit} {next : Building σ Unit} {s : σ}
    {result : Except Failure σ} {rest : σ → Except Failure σ}
    (hwork : work s = allOrNothing s result) (hnext : ∀ s', Ends next s' (rest s')) :
    Ends (work >>= fun _ => next) s (result.bind rest) := by
  cases result with
  | error failure => exact ⟨s, bind_of_error hwork _⟩
  | ok s' =>
    have hbind : (work >>= fun _ => next) s = next s' := bind_of_ok hwork _
    have hrest := hnext s'
    change Ends _ s (rest s')
    cases hend : rest s' with
    | error failure =>
      rw [hend] at hrest
      obtain ⟨remains, hrest⟩ := hrest
      exact ⟨remains, hbind.trans hrest⟩
    | ok last =>
      rw [hend] at hrest
      exact hbind.trans hrest

/-- A result is taken as it is. -/
theorem takes_liftExcept (result : Except Failure α) :
    Takes (liftExcept result : Building σ α) result := by
  intro s
  cases result with
  | ok a => rfl
  | error failure => rfl

/-- What happens to a state of its own leaves all other states alone, whether it fails or not. -/
theorem takes_startingFrom {work : Building τ Unit} {start : τ} {result : Except Failure τ}
    (h : Ends work start result) : Takes (startingFrom start work : Building σ τ) result := by
  intro s
  cases result with
  | ok r =>
    have hwork : work start = .ok () r := h
    simp only [startingFrom, hwork]
  | error failure =>
    obtain ⟨remains, hwork⟩ : ∃ remains, work start = .error failure remains := h
    simp only [startingFrom, hwork]

/-- What is added to nothing is there alone. -/
theorem takes_startingFrom_nil {work : Building (List Block) Unit}
    {result : Except Failure (List Block)} (h : Ends work [] (result.map ([] ++ ·))) :
    Takes (startingFrom [] work : Building σ (List Block)) result := by
  have hmap : result.map ([] ++ ·) = result := congrFun Except.map_id result
  rw [hmap] at h
  exact takes_startingFrom h

/-- A block that is made first and added then is added wholly or not at all. -/
theorem takes_append {work : Building (List Block) α} {result : Except Failure α}
    (h : Takes work result) (make : α → Block) (bs : List Block) :
    (work >>= fun a => (make a).append) bs =
      allOrNothing bs ((result.map make).map fun b => bs ++ [b]) := by
  have hwork := h bs
  cases result with
  | ok a => exact bind_of_ok hwork _
  | error failure => exact bind_of_error hwork _

end Building

open Building

/-- What is gathered stands behind a lead as a single block or in a container. -/
theorem Block.prefixed_gather (lead : String) (bs : List Block) :
    prefixed lead (.gather bs) = .behind lead bs := by
  match bs with
  | [] => rfl
  | [_] => rfl
  | _ :: _ :: _ => rfl

/-- A snapshot has the blocks of the builder, and its cause with the causes of that. -/
theorem Builder.snapshot_eq (b : Builder) : b.snapshot = .caused b.kind b.blocks b.cause := by
  unfold snapshot
  cases b.cause with
  | none => rfl
  | some d => rfl

namespace Op

mutual

/-- An operation on content adds its block, or fails and adds nothing. -/
theorem collect_eq (op : Op) (bs : List Block) :
    op.collect bs = allOrNothing bs (op.block.map fun b => bs ++ [b]) := by
  -- What can fail comes before the block is added, so the content is untouched by a failure.
  cases op with
  | add b => rfl
  | text s => rfl
  | code source spans options => exact takes_append (takes_liftExcept _) _ bs
  | separator width character => exact takes_append (takes_liftExcept _) _ bs
  | note title message => rfl
  | tag label => rfl
  | stack s => rfl
  | header h => rfl
  | steps title ops finalMessage =>
    exact takes_append (takes_startingFrom_nil (ends_collectAll ops [])) _ bs
  | container ops => exact takes_append (takes_startingFrom_nil (ends_collectAll ops [])) _ bs
  | prefixed lead ops =>
    rw [collect]
    simp only [Block.prefixed_gather]
    exact takes_append (takes_startingFrom_nil (ends_collectAll ops [])) _ bs
  | indent size ops =>
    rw [collect, block]
    simp only [Block.prefixed_gather]
    split
    · rfl
    · exact takes_append (takes_startingFrom_nil (ends_collectAll ops [])) _ bs
  | cause kind ops => rfl
  | build => rfl
  | render glyphs color => rfl
  | invalid failure => rfl

/-- Operations on content add their blocks in order, or the first failure among them is theirs. -/
theorem ends_collectAll (ops : List Op) (bs : List Block) :
    Ends (collectAll ops) bs ((blocks ops).map (bs ++ ·)) := by
  cases ops with
  | nil => exact congrArg (EStateM.Result.ok ()) (List.append_nil bs).symm
  | cons op rest =>
    have hresult : (blocks (op :: rest)).map (bs ++ ·) =
        (op.block.map fun b => bs ++ [b]).bind fun bs' => (blocks rest).map (bs' ++ ·) := by
      rw [blocks]
      cases op.block with
      | error failure => rfl
      | ok b =>
        cases blocks rest with
        | error failure => rfl
        | ok others => exact congrArg Except.ok (List.append_cons bs b others)
    rw [hresult, collectAll]
    exact ends_bind (collect_eq op bs) fun bs' => ends_collectAll rest bs'

end

end Op

namespace Effect

/-- Effects add their blocks in order, and the last cause that they attach stays. -/
theorem applyAll_eq (effects : List Effect) (b : Builder) :
    applyAll effects b =
      { kind := b.kind
        blocks := b.blocks ++ effects.filterMap added
        cause := (effects.filterMap attached).getLast?.or b.cause } := by
  induction effects generalizing b with
  | nil => simp [applyAll]
  | cons e rest ih =>
    have hrest : applyAll (e :: rest) b = applyAll rest (e.apply b) := rfl
    rw [hrest, ih]
    cases e with
    | adds block => simp [apply, added, attached]
    | attaches d => simp [apply, added, attached, List.filterMap_cons, List.getLast?_cons]
    | nothing => simp [apply, added, attached, List.filterMap_cons]

/-- Effects on an empty builder build the diagnostic that they make up. -/
theorem snapshot_applyAll (kind : Severity) (effects : List Effect) :
    (applyAll effects { kind }).snapshot = diagnostic kind effects := by
  rw [Builder.snapshot_eq, applyAll_eq, diagnostic, Option.or_none, List.nil_append]

end Effect

/-- Work on the blocks of a builder is done wholly or not at all if it is so on content. -/
theorem Builder.onBlocks_eq {work : Building (List Block) Unit} {b : Builder}
    {result : Except Failure Block}
    (h : work b.blocks = allOrNothing b.blocks (result.map fun block => b.blocks ++ [block])) :
    onBlocks work b = allOrNothing b ((result.map Effect.adds).map fun e => e.apply b) := by
  cases result with
  | ok block => simp only [onBlocks, h]; rfl
  | error failure => simp only [onBlocks, h]; rfl

namespace Op

/-- An operation that is one on content adds its block at the root. -/
theorem run_of_collect {op : Op} {b : Builder} (hrun : op.run b = Builder.onBlocks op.collect b)
    (heffect : op.effect b = op.block.map .adds) :
    op.run b = allOrNothing b ((op.effect b).map fun e => e.apply b) := by
  rw [hrun, heffect]
  exact Builder.onBlocks_eq (collect_eq op b.blocks)

mutual

/-- An operation at the root has its effect, or fails and has none. -/
theorem run_eq (op : Op) (b : Builder) :
    op.run b = allOrNothing b ((op.effect b).map fun e => e.apply b) := by
  cases op with
  | header h => rfl
  | cause kind ops =>
    -- The inner builder is gone after a failure; after a success its snapshot is all that is kept.
    have hinner := @takes_startingFrom Builder _ _ _ _
      (ends_runAll ops { kind := kind.getD b.kind }) b
    rw [effect]
    cases heffects : effects { kind := kind.getD b.kind } ops with
    | error failure =>
      rw [heffects] at hinner
      exact bind_of_error hinner _
    | ok inner =>
      rw [heffects] at hinner
      have hset := bind_of_ok hinner fun (inner : Builder) =>
        (set { b with cause := some inner.snapshot } : Building Builder Unit)
      refine Eq.trans hset ?_
      rw [Effect.snapshot_applyAll]
      rfl
  | build => rfl
  | render glyphs color =>
    rw [effect, ← Builder.snapshot_eq]
    cases hlines : b.snapshot.render glyphs color with
    | error failure =>
      have htake : (liftExcept (b.snapshot.render glyphs color) : Building Builder _) b =
          .error failure b := by rw [hlines]; rfl
      exact bind_of_error htake fun _ => (pure () : Building Builder Unit)
    | ok lines =>
      have htake : (liftExcept (b.snapshot.render glyphs color) : Building Builder _) b =
          .ok lines b := by rw [hlines]; rfl
      exact bind_of_ok htake fun _ => (pure () : Building Builder Unit)
  | add _ | text _ | code _ _ _ | separator _ _ | note _ _ | tag _ | stack _ | steps _ _ _
  | container _ | prefixed _ _ | indent _ _ | invalid _ =>
    exact run_of_collect rfl rfl

/-- Operations at the root have their effects in order, or the first failure among them is
theirs. -/
theorem ends_runAll (ops : List Op) (b : Builder) :
    Ends (runAll ops) b ((effects b ops).map fun es => Effect.applyAll es b) := by
  cases ops with
  | nil => rfl
  | cons op rest =>
    have hresult : (effects b (op :: rest)).map (fun es => Effect.applyAll es b) =
        ((op.effect b).map fun e => e.apply b).bind fun b' =>
          (effects b' rest).map fun es => Effect.applyAll es b' := by
      rw [effects]
      cases op.effect b with
      | error failure => rfl
      | ok e =>
        change Except.map _ ((effects (e.apply b) rest).bind fun others => .ok (e :: others)) =
          (effects (e.apply b) rest).map _
        cases effects (e.apply b) rest with
        | error failure => rfl
        | ok others => rfl
    rw [hresult, runAll]
    exact ends_bind (run_eq op b) fun b' => ends_runAll rest b'

end

end Op

namespace Builder

/-- Performing an operation has its effect, or gives its failure and leaves the builder as it
was. -/
theorem perform_eq (b : Builder) (op : Op) :
    b.perform op =
      match op.effect b with
      | .ok e => (e.apply b, none)
      | .error failure => (b, some failure) := by
  have hrun := op.run_eq b
  unfold perform
  rw [hrun]
  cases op.effect b with
  | ok e => rfl
  | error failure => rfl

/-- Operations performed one after another, each with the builder after it and its failure. -/
def history (b : Builder) : List Op → List (Op × Builder × Option Failure)
  | [] => []
  | op :: rest => (op, b.perform op) :: history (b.perform op).1 rest

/-- Whether an operation of a history succeeded. -/
def succeeded (entry : Op × Builder × Option Failure) : Bool :=
  entry.2.2.isNone

/-- The operations that succeed when some are performed, in order. -/
def successes (b : Builder) (ops : List Op) : List Op :=
  ((b.history ops).filter succeeded).map Prod.fst

section Histories

variable {b : Builder} {op : Op}

/-- After a success the history goes on from the builder with its effect. -/
theorem history_of_ok {e : Effect} (h : op.effect b = .ok e) (rest : List Op) :
    b.history (op :: rest) = (op, e.apply b, none) :: (e.apply b).history rest := by
  rw [history, perform_eq, h]

/-- After a failure the history goes on from the same builder. -/
theorem history_of_error {failure : Failure} (h : op.effect b = .error failure)
    (rest : List Op) : b.history (op :: rest) = (op, b, some failure) :: b.history rest := by
  rw [history, perform_eq, h]

/-- A success is followed by the successes on the builder with its effect. -/
theorem successes_of_ok {e : Effect} (h : op.effect b = .ok e) (rest : List Op) :
    b.successes (op :: rest) = op :: (e.apply b).successes rest := by
  rw [successes, history_of_ok h, List.filter_cons_of_pos rfl]
  rfl

/-- A failure leaves no trace among the successes. -/
theorem successes_of_error {failure : Failure} (h : op.effect b = .error failure)
    (rest : List Op) : b.successes (op :: rest) = b.successes rest := by
  rw [successes, history_of_error h, List.filter_cons_of_neg Bool.false_ne_true]
  rfl

/-- Without the operations that fail, every other operation meets the same builder and has the same
answer. -/
theorem history_successes (b : Builder) (ops : List Op) :
    b.history (b.successes ops) = (b.history ops).filter succeeded := by
  induction ops generalizing b with
  | nil => rfl
  | cons op rest ih =>
    cases heffect : op.effect b with
    | error failure =>
      rw [successes_of_error heffect, history_of_error heffect, ih,
        List.filter_cons_of_neg Bool.false_ne_true]
    | ok e =>
      rw [successes_of_ok heffect, history_of_ok heffect, history_of_ok heffect, ih,
        List.filter_cons_of_pos rfl]

/-- The builder in the end is the one that the effects of the successes lead to. -/
theorem exists_effects_successes (b : Builder) (ops : List Op) :
    ∃ es, Op.effects b (b.successes ops) = .ok es ∧ b.performAll ops = Effect.applyAll es b := by
  induction ops generalizing b with
  | nil => exact ⟨[], rfl, rfl⟩
  | cons op rest ih =>
    have hstep : b.performAll (op :: rest) = (b.perform op).1.performAll rest := rfl
    rw [hstep, perform_eq]
    cases heffect : op.effect b with
    | error failure =>
      rw [successes_of_error heffect]
      exact ih b
    | ok e =>
      obtain ⟨es, hes, hall⟩ := ih (e.apply b)
      refine ⟨e :: es, ?_, hall⟩
      rw [successes_of_ok heffect, Op.effects, heffect]
      change (Op.effects (e.apply b) _).bind _ = _
      rw [hes]
      rfl

/-- What is built in the end is made up by the successes. -/
theorem made_successes (kind : Severity) (ops : List Op) :
    Op.made kind (successes { kind } ops) = .ok (performAll { kind } ops).snapshot := by
  obtain ⟨es, hes, hall⟩ := exists_effects_successes { kind } ops
  rw [hall, Effect.snapshot_applyAll, Op.made, hes]
  rfl

/-- Each operation has one entry in the history. -/
theorem length_history (b : Builder) (ops : List Op) : (b.history ops).length = ops.length := by
  induction ops generalizing b with
  | nil => rfl
  | cons op rest ih => exact congrArg Nat.succ (ih _)

/-- Later operations go on from the builder that earlier ones leave. -/
theorem history_append (b : Builder) (ops later : List Op) :
    b.history (ops ++ later) = b.history ops ++ (b.performAll ops).history later := by
  induction ops generalizing b with
  | nil => rfl
  | cons op rest ih =>
    rw [List.cons_append, history, ih, history, List.cons_append]
    rfl

/-- A snapshot that is taken between operations is one of the builder that those before it leave. -/
theorem getElem?_history_build (b : Builder) (ops later : List Op) :
    (b.history (ops ++ .build :: later))[ops.length]? = some (.build, b.performAll ops, none) := by
  have hplace : (b.history ops).length ≤ ops.length := Nat.le_of_eq (length_history b ops)
  rw [history_append, List.getElem?_append_right hplace, length_history, Nat.sub_self]
  rfl

end Histories

/-- A builder is the list of its successful operations. An operation has its effect as a whole or
fails and leaves the builder as it was, also when it fails inside after others have succeeded there.
Without the operations that fail all others have the same answers. What is built in the end are the
blocks that the successes add, in order, with the last cause that they attach. And a snapshot that
is taken on the way has what the successes before it make up, whatever is performed later. -/
theorem built_by_successes (kind : Severity) (ops : List Op) :
    (∀ (b : Builder) (op : Op), b.perform op =
      match op.effect b with
      | .ok e => (e.apply b, none)
      | .error failure => (b, some failure)) ∧
    history { kind } (successes { kind } ops) = (history { kind } ops).filter succeeded ∧
    Op.made kind (successes { kind } ops) = .ok (performAll { kind } ops).snapshot ∧
    ∀ later, ∃ b,
      (history { kind } (ops ++ .build :: later))[ops.length]? = some (.build, b, none) ∧
      Op.made kind (successes { kind } ops) = .ok b.snapshot :=
  ⟨perform_eq, history_successes _ ops, made_successes kind ops, fun later =>
    ⟨_, getElem?_history_build _ ops later, made_successes kind ops⟩⟩

/-- A text behind a lead and two tags behind an indentation, a cause that has a cause, and two
operations that fail inside after a tag. The snapshot before the last note has neither the note nor
the tags of what failed, and the cause that failed is not the one that stays. -/
theorem built_by_successes_caused :
    ∃ b, (history { kind := .error }
        [.prefixed "> " [.text "a"], .container [.tag "b", .header {}],
          .cause none [.tag "c", .cause (some .info) [.tag "d"]],
          .cause none [.tag "e", .separator (-1) "-"], .indent 2 [.tag "f", .tag "g"], .build,
          .note "h" "i"])[5]? = some (.build, b, none) ∧
      b.snapshot =
        { report := ⟨.error, [.prefixed "> " (.verbatim (.ofText "a")),
            .prefixed "  " (.container [.tag "f", .tag "g"])]⟩
          causes := [⟨.error, [.tag "c"]⟩, ⟨.info, [.tag "d"]⟩] } := by
  obtain ⟨-, -, -, hbuilds⟩ := built_by_successes .error
    [.prefixed "> " [.text "a"], .container [.tag "b", .header {}],
      .cause none [.tag "c", .cause (some .info) [.tag "d"]],
      .cause none [.tag "e", .separator (-1) "-"], .indent 2 [.tag "f", .tag "g"]]
  obtain ⟨b, hentry, hmade⟩ := hbuilds [.note "h" "i"]
  exact ⟨b, hentry, Except.ok.inj (hmade.symm.trans rfl)⟩

end Builder

end Diagnostics
