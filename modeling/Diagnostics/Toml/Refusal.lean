import Diagnostics.Position
import Diagnostics.Text.Integer
import Diagnostics.Text.Quoted

/-!
# Refused documents

A document that is no TOML is refused for what is wrong at one place of it. To the readers of its
parts the place is the characters that are left there. To whoever is told of it, it is a line and a
column, or the end of the document.
-/

namespace Diagnostics.Toml

/-- What is wrong with a document. -/
inductive Complaint
  | invalidStatement
  /-- Something stands on a line behind its statement. -/
  | goesOn
  | invalidKeyPart
  | missingEquals
  | invalidValue
  | invalidMoment
  | unclosedArray
  | unclosedInlineTable
  | unclosedHeader
  | unclosedListHeader
  /-- A mark that ends a string is missing. -/
  | missingMark (mark : String)
  | unterminatedString
  /-- A control character in a comment or in a string without escapes. -/
  | invalidCharacter (c : Char)
  /-- A control character in a string with escapes. -/
  | illegalCharacter (c : Char)
  | unknownEscape
  | invalidHex
  | notAScalar
  | declaredTwice (key : List String)
  /-- A dotted key names a table of an earlier section. -/
  | redefined (key : List String)
  /-- A key leads into an array or a table that has been written as a value. -/
  | immutable (key : List String)
  | overwritten
  | duplicateKey (part : String)
  deriving DecidableEq, Repr

/-- A key as it is shown in a refusal. -/
def keyText : List String → String
  | [part] => "(" ++ Text.quote part ++ ",)"
  | parts => "(" ++ ", ".intercalate (parts.map Text.quote) ++ ")"

/-- The wording of what is wrong. -/
def Complaint.message : Complaint → String
  | invalidStatement => "Invalid statement"
  | goesOn => "Expected newline or end of document after a statement"
  | invalidKeyPart => "Invalid initial character for a key part"
  | missingEquals => "Expected '=' after a key in a key/value pair"
  | invalidValue => "Invalid value"
  | invalidMoment => "Invalid date or datetime"
  | unclosedArray => "Unclosed array"
  | unclosedInlineTable => "Unclosed inline table"
  | unclosedHeader => "Expected ']' at the end of a table declaration"
  | unclosedListHeader => "Expected ']]' at the end of an array declaration"
  | missingMark mark => "Expected " ++ Text.quote mark
  | unterminatedString => "Unterminated string"
  | invalidCharacter c => "Found invalid character " ++ Text.quote (String.singleton c)
  | illegalCharacter c => "Illegal character " ++ Text.quote (String.singleton c)
  | unknownEscape => "Unescaped '\\' in a string"
  | invalidHex => "Invalid hex value"
  | notAScalar => "Escaped character is not a Unicode scalar value"
  | declaredTwice key => s!"Cannot declare {keyText key} twice"
  | redefined key => "Cannot redefine namespace " ++ keyText key
  | immutable key => "Cannot mutate immutable namespace " ++ keyText key
  | overwritten => "Cannot overwrite a value"
  | duplicateKey part => "Duplicate inline table key " ++ Text.quote part

/-- Why a document cannot be read. -/
inductive Fault
  /-- It does not follow the grammar at a place, or at its end. -/
  | malformed (complaint : Complaint) (place : Option Position)
  /-- An integer has more digits than can be read. -/
  | tooManyDigits (count : Nat)
  deriving DecidableEq, Repr

/-- The wording of a fault. -/
def Fault.message : Fault → String
  | malformed complaint none => complaint.message ++ " (at end of document)"
  | malformed complaint (some p) => complaint.message ++ s!" (at line {p.line}, column {p.column})"
  | tooManyDigits count =>
    s!"Exceeds the limit ({Text.maximumDigits} digits) for integer string conversion: " ++
      s!"value has {count} digits; use sys.set_int_max_str_digits() to increase the limit"

/-- Why the characters that are left of a document cannot be read. -/
inductive Refusal
  /-- They do not follow the grammar at the place where `left` is left of them. -/
  | malformed (complaint : Complaint) (left : List Char)
  | tooManyDigits (count : Nat)
  deriving DecidableEq, Repr

/-- The place in a document where some of its characters are left; none at its end. -/
def placeOf (document left : List Char) : Option Position :=
  if left.isEmpty then none
  else some ((document.take (document.length - left.length)).foldl Position.advance .start)

/-- The fault of a document that is refused. -/
def Refusal.fault (document : List Char) : Refusal → Fault
  | malformed complaint left => .malformed complaint (placeOf document left)
  | tooManyDigits count => .tooManyDigits count

/-- What is read of some characters, or why they are refused. -/
abbrev Result := Except Refusal

/-- Refuse a document where some characters are left. -/
def refuse {α : Type} (complaint : Complaint) (left : List Char) : Result α :=
  .error (.malformed complaint left)

end Diagnostics.Toml
