import Diagnostics.Toml.Refusal
import Diagnostics.Toml.Value

/-!
# Lexemes of TOML

Readers of strings, keys, numbers and points in time. Each takes the characters that are left and
gives what it has read with the characters after it.
-/

namespace Diagnostics.Toml

/-- The characters after a word, if the characters begin with it. -/
def after? (word : String) (cs : List Char) : Option (List Char) :=
  if word.toList.isPrefixOf cs then some (cs.drop word.length) else none

/-- Whether a character is a space or a tab. -/
def isSpace (c : Char) : Bool :=
  c == ' ' || c == '\t'

/-- Whether a character is a space, a tab or a line feed. -/
def isSpaceOrFeed (c : Char) : Bool :=
  isSpace c || c == '\n'

/-- Whether a character is a control character other than a tab. None may stand in a comment or in a
string on one line. -/
def isControl (c : Char) : Bool :=
  (c.toNat < 0x20 && c != '\t') || c.toNat == 0x7f

/-- Whether a control character may not stand in a string of the given form. -/
def isIllegal (multiline : Bool) (c : Char) : Bool :=
  isControl c && !(multiline && c == '\n')

/-- Characters after a comment, if there is one; it ends before a line feed. -/
def skipComment : List Char → Result (List Char)
  | '#' :: cs =>
    match (cs.takeWhile (· != '\n')).find? isControl with
    | some c => refuse (.invalidCharacter c) (cs.dropWhile (!isControl ·))
    | none => .ok (cs.dropWhile (· != '\n'))
  | cs => .ok cs

/-! ## Strings -/

/-- Whether a character is a hexadecimal digit. -/
def isHexDigit (c : Char) : Bool :=
  c.isDigit || ('a' ≤ c && c ≤ 'f') || ('A' ≤ c && c ≤ 'F')

/-- The value of a digit of a number in any base up to sixteen. -/
def hexDigitValue (c : Char) : Nat :=
  if c.isDigit then c.toNat - '0'.toNat
  else if 'a' ≤ c then c.toNat - 'a'.toNat + 10
  else c.toNat - 'A'.toNat + 10

/-- The number with the given digits. -/
def ofDigits (base : Nat) (digits : List Char) : Nat :=
  digits.foldl (fun n c => base * n + hexDigitValue c) 0

/-- The character that `count` hexadecimal digits stand for. -/
def codePoint (count : Nat) (cs : List Char) : Result (List Char × List Char) :=
  let digits := cs.take count
  let code := ofDigits 16 digits
  if digits.length = count ∧ digits.all isHexDigit then
    if code.isValidChar then .ok ([Char.ofNat code], cs.drop count)
    else refuse .notAScalar (cs.drop count)
  else refuse .invalidHex cs

/-- The characters after a backslash that ends a line; all blanks up to the next character are left
out. Blanks in front of the line feed are passed before its absence is found. -/
def continueLine (cs : List Char) : Result (List Char × List Char) :=
  match cs.dropWhile isSpace with
  | '\n' :: rest => .ok ([], rest.dropWhile isSpaceOrFeed)
  | [] => if cs.isEmpty then refuse .unknownEscape [] else .ok ([], [])
  | rest => refuse .unknownEscape (if cs.head?.any isSpace then rest else cs.drop 1)

/-- What an escape stands for, from the character after the backslash on. -/
def readEscape (multiline : Bool) : List Char → Result (List Char × List Char)
  | 'b' :: cs => .ok (['\x08'], cs)
  | 't' :: cs => .ok (['\t'], cs)
  | 'n' :: cs => .ok (['\n'], cs)
  | 'f' :: cs => .ok (['\x0c'], cs)
  | 'r' :: cs => .ok (['\r'], cs)
  | '"' :: cs => .ok (['"'], cs)
  | '\\' :: cs => .ok (['\\'], cs)
  | 'u' :: cs => codePoint 4 cs
  | 'U' :: cs => codePoint 8 cs
  | cs => if multiline then continueLine cs else refuse .unknownEscape (cs.drop 1)

/-- A string with escapes, from the character after its opening quotation marks on. -/
def readBasic (multiline : Bool) : Nat → List Char → Result (List Char × List Char)
  | 0, cs => refuse .unterminatedString cs
  | _, [] => refuse .unterminatedString []
  | fuel + 1, '"' :: cs =>
    if multiline then
      match after? "\"\"" cs with
      | some rest => .ok ([], rest)
      | none => (readBasic multiline fuel cs).map fun (s, rest) => ('"' :: s, rest)
    else .ok ([], cs)
  | fuel + 1, '\\' :: cs => do
    let (piece, cs) ← readEscape multiline cs
    let (s, rest) ← readBasic multiline fuel cs
    return (piece ++ s, rest)
  | fuel + 1, c :: cs =>
    if isIllegal multiline c then refuse (.illegalCharacter c) (c :: cs)
    else (readBasic multiline fuel cs).map fun (s, rest) => (c :: s, rest)

/-- The characters before the first place where a mark stands, and those after the mark. -/
def splitAtMark? (mark : String) : List Char → Option (List Char × List Char)
  | [] => none
  | c :: cs =>
    match after? mark (c :: cs) with
    | some rest => some ([], rest)
    | none => (splitAtMark? mark cs).map fun (s, rest) => (c :: s, rest)

/-- A string without escapes, from the character after its opening mark on. It ends in the same
mark, which is looked for before the characters of the string are. -/
def readLiteral (mark : String) (multiline : Bool) (cs : List Char) :
    Result (List Char × List Char) :=
  match splitAtMark? mark cs with
  | none => refuse (.missingMark mark) []
  | some (s, rest) =>
    match s.find? (isIllegal multiline) with
    | some c => refuse (.invalidCharacter c) (cs.dropWhile (!isIllegal multiline ·))
    | none => .ok (s, rest)

/-- Up to two quotation marks that stand right after the closing ones belong to the string. -/
def extraMarks (mark : Char) (s : List Char) : List Char → List Char × List Char
  | c :: d :: cs =>
    if c = mark then
      if d = mark then (s ++ [mark, mark], cs) else (s ++ [mark], d :: cs)
    else (s, c :: d :: cs)
  | [c] => if c = mark then (s ++ [mark], []) else (s, [c])
  | [] => (s, [])

/-- Characters without a line feed that they begin with. -/
def dropFeed : List Char → List Char
  | '\n' :: cs => cs
  | cs => cs

/-- A string of any form; none if the characters begin with no quotation mark. -/
def readString? (cs : List Char) : Option (Result (String × List Char)) :=
  let text (r : Result (List Char × List Char)) : Result (String × List Char) :=
    r.map fun (s, rest) => (String.ofList s, rest)
  match after? "\"\"\"" cs, after? "'''" cs, cs with
  | some rest, _, _ =>
    some (text ((readBasic true cs.length (dropFeed rest)).map fun (s, rest) =>
      extraMarks '"' s rest))
  | _, some rest, _ =>
    some (text ((readLiteral "'''" true (dropFeed rest)).map fun (s, rest) =>
      extraMarks '\'' s rest))
  | _, _, '"' :: rest => some (text (readBasic false cs.length rest))
  | _, _, '\'' :: rest => some (text (readLiteral "'" false rest))
  | _, _, _ => none

/-! ## Keys -/

/-- Whether a character may stand in a key without quotation marks. -/
def isBareKey (c : Char) : Bool :=
  c.isAlphanum || c == '-' || c == '_'

/-- One part of a key. -/
def readKeyPart (cs : List Char) : Result (String × List Char) :=
  match cs with
  | '"' :: rest => (readBasic false cs.length rest).map fun (s, rest) => (String.ofList s, rest)
  | '\'' :: rest => (readLiteral "'" false rest).map fun (s, rest) => (String.ofList s, rest)
  | _ =>
    let part := cs.takeWhile isBareKey
    if part.isEmpty then refuse .invalidKeyPart cs
    else .ok (String.ofList part, cs.dropWhile isBareKey)

/-- A key, whose parts are divided by points, and the characters after the spaces behind it. -/
def readKey : Nat → List Char → Result (List String × List Char)
  | 0, cs => refuse .invalidKeyPart cs
  | fuel + 1, cs => do
    let (part, cs) ← readKeyPart cs
    match cs.dropWhile isSpace with
    | '.' :: rest =>
      let (parts, rest) ← readKey fuel (rest.dropWhile isSpace)
      return (part :: parts, rest)
    | rest => return ([part], rest)

/-! ## Numbers -/

/-- Digits with single underscores between them: the digits, and what follows them. At least one
digit must come first. -/
def readDigits (isDigit : Char → Bool) : List Char → Option (List Char × List Char)
  | [] => none
  | c :: '_' :: cs =>
    if isDigit c then
      match readDigits isDigit cs with
      | some (ds, rest) => some (c :: ds, rest)
      | none => some ([c], '_' :: cs)
    else none
  | c :: cs =>
    if isDigit c then
      match readDigits isDigit cs with
      | some (ds, rest) => some (c :: ds, rest)
      | none => some ([c], cs)
    else none

/-- A number in base sixteen, two or eight, after its leading zero. -/
def readBased? : List Char → Option (Nat × List Char)
  | 'x' :: cs => (readDigits isHexDigit cs).map fun (ds, rest) => (ofDigits 16 ds, rest)
  | 'b' :: cs =>
    (readDigits (fun c => c == '0' || c == '1') cs).map fun (ds, rest) => (ofDigits 2 ds, rest)
  | 'o' :: cs =>
    (readDigits (fun c => '0' ≤ c && c ≤ '7') cs).map fun (ds, rest) => (ofDigits 8 ds, rest)
  | _ => none

/-- A sign, and whether it is negative. -/
def readSign : List Char → Bool × List Char
  | '-' :: cs => (true, cs)
  | '+' :: cs => (false, cs)
  | cs => (false, cs)

/-- The whole part of a decimal number. No digit may follow a leading zero. -/
def readWhole? : List Char → Option (List Char × List Char)
  | '0' :: cs => some (['0'], cs)
  | cs => readDigits Char.isDigit cs

/-- The digits after a point; none if the number has no such part. -/
def readFraction : List Char → List Char × List Char
  | '.' :: cs => (readDigits Char.isDigit cs).getD ([], '.' :: cs)
  | cs => ([], cs)

/-- The digits of an exponent, signed; none if the number has no such part. -/
def readExponent (cs : List Char) : Option (Int × List Char) :=
  match cs with
  | c :: rest =>
    if c = 'e' ∨ c = 'E' then
      let (negative, rest) := readSign rest
      (readDigits Char.isDigit rest).map fun (ds, rest) =>
        (if negative then -(ofDigits 10 ds : Int) else ofDigits 10 ds, rest)
    else none
  | [] => none

/-- The double nearest to `digits * 10 ^ exponent`. Numbers beyond the range of doubles are settled
by their size alone. -/
def toDouble (negative : Bool) (digits : List Char) (exponent : Int) : Float :=
  let significant := digits.dropWhile (· == '0')
  let size := exponent + significant.length
  let magnitude :=
    if significant.isEmpty || size < -400 then 0.0
    else if 400 < size then 1.0 / 0.0
    else Float.ofScientific (ofDigits 10 significant) (exponent < 0) exponent.natAbs
  if negative then -magnitude else magnitude

/-- A decimal number: a double if it has a fraction or an exponent, else an integer. -/
def readDecimal? (cs : List Char) : Option (Result (Value × List Char)) := do
  let (negative, cs) := readSign cs
  let (whole, rest) ← readWhole? cs
  let (fraction, rest) := readFraction rest
  match readExponent rest with
  | some (exponent, rest) =>
    some (.ok (.float (toDouble negative (whole ++ fraction) (exponent - fraction.length)), rest))
  | none =>
    if !fraction.isEmpty then
      some (.ok (.float (toDouble negative (whole ++ fraction) (-fraction.length)), rest))
    else if Text.maximumDigits < whole.length then some (.error (.tooManyDigits whole.length))
    else
      let n : Int := ofDigits 10 whole
      some (.ok (.integer (if negative then -n else n), rest))

/-- A number of any kind; none if the characters begin with none. -/
def readNumber? (cs : List Char) : Option (Result (Value × List Char)) :=
  match cs with
  | '0' :: rest =>
    match readBased? rest with
    | some (n, rest) => some (.ok (.integer n, rest))
    | none => readDecimal? cs
  | _ => readDecimal? cs

/-- An infinity or the value that is no number, with or without a sign. -/
def readSpecial? (cs : List Char) : Option (Value × List Char) :=
  let (negative, rest) := readSign cs
  match after? "inf" rest, after? "nan" rest with
  | some rest, _ => some (.float (if negative then -1.0 / 0.0 else 1.0 / 0.0), rest)
  | _, some rest => some (.float (0.0 / 0.0), rest)
  | _, _ => none

/-! ## Points in time -/

/-- A number of exactly `count` digits that lies from `low` to `high`. -/
def readField (count low high : Nat) (cs : List Char) : Option (Nat × List Char) :=
  let digits := cs.take count
  let n := ofDigits 10 digits
  if digits.length = count && digits.all Char.isDigit && low ≤ n && n ≤ high then
    some (n, cs.drop count)
  else none

/-- The characters after a given one. -/
def afterChar? (c : Char) : List Char → Option (List Char)
  | [] => none
  | d :: cs => if d = c then some cs else none

/-- The characters after a time of day. -/
def afterTime? (cs : List Char) : Option (List Char) := do
  let (_, cs) ← readField 2 0 23 cs
  let (_, cs) ← readField 2 0 59 (← afterChar? ':' cs)
  let (_, cs) ← readField 2 0 59 (← afterChar? ':' cs)
  match cs with
  | '.' :: c :: rest => if c.isDigit then return rest.dropWhile Char.isDigit else return cs
  | _ => return cs

/-- The characters after the distance from universal time, if it is given. -/
def afterOffset (cs : List Char) : List Char :=
  match cs with
  | c :: rest =>
    if c = 'Z' ∨ c = 'z' then rest
    else if c = '+' ∨ c = '-' then
      let offset := do
        let (_, cs) ← readField 2 0 23 rest
        let (_, cs) ← readField 2 0 59 (← afterChar? ':' cs)
        return cs
      offset.getD cs
    else cs
  | [] => cs

/-- The number of days of a month. -/
def daysIn (year month : Nat) : Nat :=
  if month = 2 then
    if year % 4 = 0 ∧ (year % 100 ≠ 0 ∨ year % 400 = 0) then 29 else 28
  else if month = 4 ∨ month = 6 ∨ month = 9 ∨ month = 11 then 30
  else 31

/-- The characters of a date, as numbers, and those after it. -/
def readDate? (cs : List Char) : Option ((Nat × Nat × Nat) × List Char) := do
  let (year, cs) ← readField 4 0 9999 cs
  let (month, cs) ← readField 2 1 12 (← afterChar? '-' cs)
  let (day, cs) ← readField 2 1 31 (← afterChar? '-' cs)
  return ((year, month, day), cs)

/-- The part of `cs` that was read when `rest` is left. -/
def consumed (cs rest : List Char) : String :=
  String.ofList (cs.take (cs.length - rest.length))

/-- A date, with a time or without, or a time; none if the characters begin with neither. A date
that is in no calendar is refused. -/
def readMoment? (cs : List Char) : Option (Result (Value × List Char)) :=
  match readDate? cs with
  | some ((year, month, day), rest) =>
    if year = 0 ∨ daysIn year month < day then some (refuse .invalidMoment cs)
    else
      let time := match rest with
        | c :: more => if c = 'T' ∨ c = 't' ∨ c = ' ' then afterTime? more else none
        | [] => none
      match time with
      | some more =>
        let more := afterOffset more
        some (.ok (.moment .dateTime (consumed cs more), more))
      | none => some (.ok (.moment .date (consumed cs rest), rest))
  | none => (afterTime? cs).map fun rest => .ok (.moment .time (consumed cs rest), rest)

end Diagnostics.Toml
