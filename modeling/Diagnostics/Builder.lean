import Diagnostics.Layout.Tree

/-!
# Building a diagnostic

A diagnostic is built by operations, each of which adds one block or sets the cause. Operations that
contain others run them on a builder of their own, which collects content only: it offers neither a
header nor a cause. Operations change the builder that they run on, and a failure takes nothing back
of what has been changed before it.
-/

namespace Diagnostics

/-- An operation on a builder. -/
inductive Op
  | add (block : Block)
  | text (text : String)
  | code (source : Source) (spans : List Span) (options : Excerpt.Options)
  | separator (width : Int) (character : String)
  | note (title message : String)
  | tag (label : String)
  | stack (stack : Stack)
  | header (header : Header)
  /-- Each block that the operations add becomes a step. -/
  | steps (title : String) (ops : List Op) (finalMessage : String)
  | container (ops : List Op)
  /-- Put a text in front of every line of what the operations add. -/
  | prefixed (lead : String) (ops : List Op)
  /-- Put spaces in front of every line of what the operations add. -/
  | indent (size : Int) (ops : List Op)
  /-- Attach what the operations build as the cause, by default with the same severity. -/
  | cause (kind : Option Severity) (ops : List Op)
  /-- Take a snapshot, which changes nothing. -/
  | build
  /-- Lay out a snapshot, which changes nothing. -/
  | render (glyphs : Glyphs) (color : Bool)
  /-- An operation with an argument that could not be made. -/
  | invalid (failure : Failure)
  deriving Inhabited

/-- The block that holds some blocks: a single one stands for itself. -/
def Block.gather : List Block → Block
  | [b] => b
  | bs => .container bs

/-- Work on a state, which may fail part of the way. The changes up to the failure stay. -/
abbrev Building (σ α : Type) := EStateM Failure σ α

/-- Work on a state of its own, and what that state is in the end. -/
def Building.startingFrom {σ τ : Type} (start : τ) (work : Building τ Unit) : Building σ τ :=
  fun s =>
    match work start with
    | .ok _ result => .ok result s
    | .error failure _ => .error failure s

/-- Add a block after the others. -/
def Block.append (b : Block) : Building (List Block) Unit :=
  modify (· ++ [b])

namespace Op

mutual

/-- Run an operation on a builder of content. -/
def collect : Op → Building (List Block) Unit
  | add b => b.append
  | text s => (Block.verbatim (.ofText s)).append
  | code source spans options => do
    let c ← liftExcept (Code.make source spans options)
    (Block.code c).append
  | separator width character => do
    let s ← liftExcept (Separator.make width character)
    (Block.separator s).append
  | note title message => (Block.note title message).append
  | tag label => (Block.tag label).append
  | stack s => (Block.stack s).append
  | header _ => throw (.notOffered "header")
  | steps title ops finalMessage => do
    let bs ← (collectAll ops).startingFrom []
    (Block.steps title bs finalMessage).append
  | container ops => do
    let bs ← (collectAll ops).startingFrom []
    (Block.container bs).append
  | prefixed lead ops => do
    let bs ← (collectAll ops).startingFrom []
    (Block.prefixed lead (.gather bs)).append
  | indent size ops => do
    if size < 0 then throw .negativeIndent
    let bs ← (collectAll ops).startingFrom []
    (Block.prefixed (Text.spaces size.toNat) (.gather bs)).append
  | cause _ _ => throw (.notOffered "cause")
  | build => throw (.notOffered "build")
  | render _ _ => throw (.notOffered "build")
  | invalid failure => throw failure

/-- Run operations on a builder of content one after another until one fails. -/
def collectAll : List Op → Building (List Block) Unit
  | [] => pure ()
  | op :: rest => do
    collect op
    collectAll rest

end

end Op

/-- A diagnostic under construction. -/
structure Builder where
  kind : Severity
  blocks : List Block := []
  cause : Option Diagnostic := none

namespace Builder

/-- The diagnostic built so far. -/
def snapshot (b : Builder) : Diagnostic where
  report := ⟨b.kind, b.blocks⟩
  causes := (b.cause.map Diagnostic.reports).getD []

/-- Work on the blocks of a builder. -/
def onBlocks (work : Building (List Block) Unit) : Building Builder Unit := fun b =>
  match work b.blocks with
  | .ok _ blocks => .ok () { b with blocks }
  | .error failure blocks => .error failure { b with blocks }

end Builder

namespace Op

mutual

/-- Run an operation on the builder of a diagnostic. -/
def run : Op → Building Builder Unit
  | header h => Builder.onBlocks (Block.header h).append
  | cause kind ops => do
    let b ← get
    let inner ← (runAll ops).startingFrom { kind := kind.getD b.kind }
    set { b with cause := some inner.snapshot }
  | build => pure ()
  | render glyphs color => do
    let b ← get
    let _ ← liftExcept (b.snapshot.render glyphs color)
  | op => Builder.onBlocks op.collect

/-- Run operations on the builder of a diagnostic one after another until one fails. -/
def runAll : List Op → Building Builder Unit
  | [] => pure ()
  | op :: rest => do
    run op
    runAll rest

end

end Op

namespace Builder

/-- Perform an operation: the builder after it, and the failure if there is one. -/
def perform (b : Builder) (op : Op) : Builder × Option Failure :=
  match op.run b with
  | .ok _ after => (after, none)
  | .error failure after => (after, some failure)

/-- Perform operations one after another, whether they fail or not. -/
def performAll (b : Builder) (ops : List Op) : Builder :=
  ops.foldl (fun b op => (b.perform op).1) b

end Builder

end Diagnostics
