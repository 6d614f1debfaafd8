import Diagnostics.Datum
import Diagnostics.Failure

/-!
# Comparisons

Severities are ordered by rank, numbers and truth values by their exact value, and lists by their
first difference. Values of two kinds, and a severity and any other value, have no order.
-/

namespace Diagnostics

namespace Datum

mutual

/-- Compare two foreign values. -/
def compare (comparison : Comparison) : Datum → Datum → Except Failure Bool
  | list xs, b => match b with
    | list ys => compareItems comparison xs ys
    | b => .error (.unordered comparison "list" b.kind)
  | string s, b => match b with
    | string t => .ok (comparison.holds (Ord.compare s t))
    | b => .error (.unordered comparison "str" b.kind)
  | a, b =>
    match a.number?, b.number? with
    | some x, some y => .ok ((x.order? y).any comparison.holds)
    | _, _ => .error (.unordered comparison a.kind b.kind)

/-- Compare two lists. The first items that differ decide; without any, the lengths do. -/
def compareItems (comparison : Comparison) : List Datum → List Datum → Except Failure Bool
  | [], ys => .ok (comparison.holds (Ord.compare 0 ys.length))
  | x :: xs, ys => match ys with
    | [] => .ok (comparison.holds .gt)
    | y :: ys => if x.same y then compareItems comparison xs ys else compare comparison x y

end

end Datum

/-- A severity or something else. -/
inductive Operand
  | severity (value : Severity)
  | other (value : Datum)

namespace Operand

/-- What kind of value an operand is. -/
def kind : Operand → String
  | severity _ => "Severity"
  | other value => value.kind

/-- Compare two operands. -/
def compare (comparison : Comparison) : Operand → Operand → Except Failure Bool
  | severity a, severity b => .ok (comparison.holds (Ord.compare a.rank b.rank))
  | other a, other b => a.compare comparison b
  | a, b => .error (.unordered comparison a.kind b.kind)

/-- Whether two operands are equal. -/
def same : Operand → Operand → Bool
  | severity a, severity b => a == b
  | other a, other b => a.same b
  | _, _ => false

end Operand

namespace Severity

/-- The least of some severities. -/
def least (severities : List Severity) : Except Failure Severity :=
  match (sort severities).head? with
  | some severity => .ok severity
  | none => .error (.noValues "min")

/-- The most serious of some severities. -/
def greatest (severities : List Severity) : Except Failure Severity :=
  match (sort severities).getLast? with
  | some severity => .ok severity
  | none => .error (.noValues "max")

end Severity

end Diagnostics
