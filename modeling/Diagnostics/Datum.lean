import Diagnostics.Decimal.Binary

/-!
# Foreign values

A tree of blocks may hold a value that is no block at all. Such a value keeps its place until the
tree is laid out and is refused there. Two foreign values are the same if they are equal as data,
where truth values count as the numbers zero and one.
-/

namespace Diagnostics

/-- A value from outside the library. -/
inductive Datum
  | null
  | boolean (value : Bool)
  | integer (value : Int)
  | float (value : Float)
  | string (value : String)
  | list (items : List Datum)
  | object (fields : List (String × Datum))
  deriving Repr, Inhabited

namespace Datum

/-- What kind of value a foreign value is. -/
def kind : Datum → String
  | null => "NoneType"
  | boolean _ => "bool"
  | integer _ => "int"
  | float _ => "float"
  | string _ => "str"
  | list _ => "list"
  | object _ => "dict"

/-- The number that a foreign value stands for; none if it is no number and no truth value. -/
def number? : Datum → Option Decimal.Reading
  | boolean b => some (.ofInt (if b then 1 else 0))
  | integer n => some (.ofInt n)
  | float x => some (Decimal.read x)
  | _ => none

/-- The order of two numbers or truth values, taken on their exact values. -/
def orderNumbers? (a b : Datum) : Option Ordering :=
  match a.number?, b.number? with
  | some x, some y => x.order? y
  | _, _ => none

/-- Whether two numbers or truth values are equal; values of other kinds are not compared here. -/
def sameNumber (a b : Datum) : Bool :=
  orderNumbers? a b == some .eq

mutual

/-- Whether two foreign values are the same. -/
def same : Datum → Datum → Bool
  | null, b => match b with
    | null => true
    | _ => false
  | string s, b => match b with
    | string t => s == t
    | _ => false
  | list xs, b => match b with
    | list ys => sameItems xs ys
    | _ => false
  | object xs, b => match b with
    | object ys => xs.length == ys.length && sameFields xs ys
    | _ => false
  | boolean v, b => sameNumber (boolean v) b
  | integer v, b => sameNumber (integer v) b
  | float v, b => sameNumber (float v) b

/-- Whether two lists hold the same values in the same order. -/
def sameItems : List Datum → List Datum → Bool
  | [], ys => ys.isEmpty
  | x :: xs, ys => match ys with
    | [] => false
    | y :: ys => same x y && sameItems xs ys

/-- Whether each field is also a field of another object, with the same value. -/
def sameFields : List (String × Datum) → List (String × Datum) → Bool
  | [], _ => true
  | (name, x) :: xs, ys =>
    (match ys.lookup name with
      | some y => same x y
      | none => false) && sameFields xs ys

end

end Datum

end Diagnostics
