import Diagnostics.Block.Code
import Diagnostics.Command.Fault

/-!
# Context counts from settings

A settings file may give a count of context lines as any value. Integers and truth values count as
they are. A double is taken where it is only compared with numbers of lines; where it would say at
which line the context begins or ends, it is refused.
-/

namespace Diagnostics.Command

/-- A count of context lines as it is given. -/
inductive Count
  | whole (n : Int)
  | real (x : Float)

/-- The number that a value stands for; none if it is of another kind. -/
def Count.ofValue? : Toml.Value → Option Count
  | .integer n => some (.whole n)
  | .boolean b => some (.whole (if b then 1 else 0))
  | .float x => some (.real x)
  | _ => none

/-- Whether a count is below zero. -/
def Count.isNegative : Count → Bool
  | whole n => n < 0
  | real x => x < 0

/-- The number of a count, which must not be below zero. -/
def readCount (name : ContextCount) (value : Toml.Value) : Except Fault Count :=
  match Count.ofValue? value with
  | none => .error (.failure (.unordered .less value.kind "int"))
  | some count =>
    if count.isNegative then .error (.failure (.negativeCount name)) else .ok count

/-- The three counts of context lines. -/
structure Counts where
  previous : Count
  next : Count
  middle : Count

/-- Read the three counts, in this order. -/
def readCounts (previous next middle : Toml.Value) : Except Fault Counts := do
  let previous ← readCount .previous previous
  let next ← readCount .next next
  let middle ← readCount .middle middle
  return { previous, next, middle }

/-- The count of lines before `first`. A double is taken if it asks for all of them. -/
def settlePrevious (first : Nat) : Count → Except Fault Int
  | .whole n => .ok n
  | .real x => if 1 < Float.ofNat first - x then .error .fractionalCount else .ok first

/-- The count of lines after `last`. A double is taken if it asks for all of them. -/
def settleNext (last lineCount : Nat) : Count → Except Fault Int
  | .whole n => .ok n
  | .real x =>
    if Float.ofNat last + x < Float.ofNat lineCount then .error .fractionalCount
    else .ok lineCount

/-- The longest gap to fill. A double fills the same gaps as the integer below it, after one has
been added to both; infinity fills all gaps of a source. -/
def settleMiddle (lineCount : Nat) : Count → Int
  | .whole n => n
  | .real x =>
    match Decimal.read (x + 1) with
    | .finite b => b.floor - 1
    | .infinite negative => if negative then 0 else lineCount
    | .notANumber => 0

/-- Options with counts that have been settled for the lines that are highlighted. -/
def settleCounts (source : Source) (highlights : List Highlight) (counts : Counts)
    (options : Excerpt.Options) : Except Fault Excerpt.Options :=
  match highlights with
  | [] => .ok options
  | h :: rest => do
    let previousLines ← settlePrevious (Excerpt.firstLine h.start.line rest) counts.previous
    let nextLines ←
      settleNext (Excerpt.lastLine h.stop.line rest) source.lineCount counts.next
    let middleLines := settleMiddle source.lineCount counts.middle
    return { options with previousLines, nextLines, middleLines }

/-- A failure as a fault of the command. -/
def orFault {α : Type} : Except Failure α → Except Fault α
  | .ok a => .ok a
  | .error failure => .error (.failure failure)

/-- Make a code block with counts of any kind. They are checked before the source and the spans. -/
def makeCode (source : Source) (spans : List Span) (previous next middle : Toml.Value)
    (options : Excerpt.Options) : Except Fault Code := do
  let counts ← readCounts previous next middle
  if source.text.isEmpty then throw (.failure .emptySource)
  let highlights ← orFault (Highlight.resolveAll source spans)
  let options ← settleCounts source highlights counts options
  orFault (Code.make source spans options)

end Diagnostics.Command
