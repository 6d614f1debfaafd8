import Diagnostics.Block.Basic

/-!
# Sameness of blocks

Two trees are the same if they have the same shape and the same contents. Foreign values in them are
compared as data.
-/

namespace Diagnostics

mutual

/-- Whether two blocks are the same. -/
def Block.same : Block → Block → Bool
  | .header a, other => match other with
    | .header b => a == b
    | _ => false
  | .prefixed lead a, other => match other with
    | .prefixed lead' b => lead == lead' && a.same b
    | _ => false
  | .code a, other => match other with
    | .code b => a.same b
    | _ => false
  | .verbatim a, other => match other with
    | .verbatim b => a == b
    | _ => false
  | .container as, other => match other with
    | .container bs => Block.sameAll as bs
    | _ => false
  | .separator a, other => match other with
    | .separator b => a == b
    | _ => false
  | .note title message, other => match other with
    | .note title' message' => title == title' && message == message'
    | _ => false
  | .tag label, other => match other with
    | .tag label' => label == label'
    | _ => false
  | .stack a, other => match other with
    | .stack b => a == b
    | _ => false
  | .steps title as finalMessage, other => match other with
    | .steps title' bs finalMessage' =>
      title == title' && Block.sameAll as bs && finalMessage == finalMessage'
    | _ => false
  | .foreign a, other => match other with
    | .foreign b => a.same b
    | _ => false

/-- Whether two lists hold the same blocks in the same order. -/
def Block.sameAll : List Block → List Block → Bool
  | [], bs => bs.isEmpty
  | a :: as, bs => match bs with
    | [] => false
    | b :: bs => a.same b && Block.sameAll as bs

end

/-- Whether two reports are the same. -/
def Report.same (a b : Report) : Bool :=
  a.kind == b.kind && Block.sameAll a.blocks b.blocks

/-- Whether two lists hold the same reports in the same order. -/
def Report.sameAll : List Report → List Report → Bool
  | [], bs => bs.isEmpty
  | a :: as, bs => match bs with
    | [] => false
    | b :: bs => a.same b && Report.sameAll as bs

/-- Whether two diagnostics are the same. -/
def Diagnostic.same (a b : Diagnostic) : Bool :=
  Report.sameAll a.reports b.reports

end Diagnostics
