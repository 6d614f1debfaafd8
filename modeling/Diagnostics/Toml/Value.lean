import Diagnostics.Decimal.Shortest

/-!
# TOML values

A TOML document is a table of values. Values that settings do not expect are kept as they are, since
what becomes of them is decided where they are used.
-/

namespace Diagnostics.Toml

/-- The three kinds of points in time. -/
inductive MomentKind
  | dateTime
  | date
  | time
  deriving DecidableEq, Repr

/-- A value of a document. -/
inductive Value
  | string (text : String)
  | integer (value : Int)
  | float (value : Float)
  | boolean (value : Bool)
  | moment (kind : MomentKind) (text : String)
  | array (items : List Value)
  | table (entries : List (String × Value))
  deriving Repr, Inhabited

namespace Value

/-- What kind of value a value is. -/
def kind : Value → String
  | string _ => "str"
  | integer _ => "int"
  | float _ => "float"
  | boolean _ => "bool"
  | moment .dateTime _ => "datetime.datetime"
  | moment .date _ => "datetime.date"
  | moment .time _ => "datetime.time"
  | array _ => "list"
  | table _ => "dict"

/-- Whether a value counts as true: a number other than zero, anything that is not empty, and every
point in time. -/
def isTrue : Value → Bool
  | string text => !text.isEmpty
  | integer value => value != 0
  | float value => value != 0
  | boolean value => value
  | moment _ _ => true
  | array items => !items.isEmpty
  | table entries => !entries.isEmpty

end Value

/-- The exponents from which and up to which a number is written without an exponent. -/
structure FloatNotation where
  least : Int
  greatest : Int
  /-- The fewest digits of an exponent. -/
  exponentDigits : Nat

/-- Numbers are written positionally from one ten-thousandth up to ten to the sixteenth. -/
def floatNotation : FloatNotation where
  least := -4
  greatest := 15
  exponentDigits := 2

/-- Digits with a point after the first `whole` of them, filled with zeros on either side. -/
def placePoint (digits : List Char) (whole : Int) : List Char :=
  if whole ≤ 0 then
    '0' :: '.' :: List.replicate (-whole).toNat '0' ++ digits
  else
    let size := whole.toNat
    let fraction := digits.drop size
    digits.take size ++ List.replicate (size - digits.length) '0' ++
      '.' :: (if fraction.isEmpty then ['0'] else fraction)

/-- An exponent with its sign. -/
def exponentText (width : Nat) (exponent : Int) : List Char :=
  let digits := exponent.natAbs.repr.toList
  'e' :: (if exponent < 0 then '-' else '+') ::
    List.replicate (width - digits.length) '0' ++ digits

/-- A decimal in the notation that its size calls for. -/
def scientificText (style : FloatNotation) (s : Decimal.Scientific) : List Char :=
  let digits := s.digits.repr.toList
  let leading := s.exponent + digits.length - 1
  if s.digits = 0 then ['0', '.', '0']
  else if style.least ≤ leading ∧ leading ≤ style.greatest then placePoint digits (leading + 1)
  else
    let fraction := digits.drop 1
    digits.take 1 ++ (if fraction.isEmpty then [] else '.' :: fraction) ++
      exponentText style.exponentDigits leading

/-- The text of a double: the shortest decimal that reads back as it. -/
def floatText (x : Float) : String :=
  match Decimal.read x with
  | .notANumber => "nan"
  | .infinite negative => if negative then "-inf" else "inf"
  | .finite b =>
    String.ofList ((if b.negative then ['-'] else []) ++
      scientificText floatNotation (Decimal.shortest b))

end Diagnostics.Toml
