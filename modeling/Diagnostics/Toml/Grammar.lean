import Diagnostics.Toml.Document
import Diagnostics.Toml.Lexeme

/-!
# The grammar of TOML

A document is read statement by statement. Values hold values, so their readers take a bound on the
number of steps; the length of the document is always enough, since each step but every second one
reads a character. So arrays and inline tables are read at every depth. A reader that calls itself
on a bounded stack gives up at some depth with a fault of its own, and no such limit is described
here.
-/

namespace Diagnostics.Toml

/-- A value that holds no others; none if the characters begin with none. -/
def readScalar? (cs : List Char) : Option (Result (Value × List Char)) :=
  match readString? cs with
  | some r => some (r.map fun (s, rest) => (.string s, rest))
  | none =>
    match after? "true" cs, after? "false" cs with
    | some rest, _ => some (.ok (.boolean true, rest))
    | _, some rest => some (.ok (.boolean false, rest))
    | _, _ =>
      match readMoment? cs, readNumber? cs with
      | some r, _ => some r
      | _, some r => some r
      | _, _ => (readSpecial? cs).map .ok

/-- Skip blanks, line feeds and comments between the items of an array. -/
def skipBetweenItems : Nat → List Char → Result (List Char)
  | 0, cs => .ok cs
  | fuel + 1, cs =>
    match cs.dropWhile isSpaceOrFeed with
    | '#' :: rest => do
      let rest ← skipComment ('#' :: rest)
      skipBetweenItems fuel rest
    | rest => .ok rest

/-- Refuse what is wrong with a statement, where some characters are left behind it. -/
def orRefuse {α : Type} (left : List Char) : Except Complaint α → Result α
  | .ok a => .ok a
  | .error complaint => refuse complaint left

mutual

/-- A value. -/
def readValue : Nat → List Char → Result (Value × List Char)
  | 0, cs => refuse .invalidValue cs
  | fuel + 1, cs =>
    match cs with
    | '[' :: rest => do
      let rest ← skipBetweenItems rest.length rest
      match rest with
      | ']' :: rest => return (.array [], rest)
      | _ => readItems fuel [] rest
    | '{' :: rest =>
      match rest.dropWhile isSpace with
      | '}' :: rest => .ok (.table [], rest)
      | rest => readEntries fuel [] rest
    | _ => (readScalar? cs).getD (refuse .invalidValue cs)

/-- The items of an array after those read so far, which are given in reverse. -/
def readItems : Nat → List Value → List Char → Result (Value × List Char)
  | 0, _, cs => refuse .unclosedArray cs
  | fuel + 1, items, cs => do
    let (value, rest) ← readValue fuel cs
    let items := value :: items
    let rest ← skipBetweenItems rest.length rest
    match rest with
    | ']' :: rest => return (.array items.reverse, rest)
    | ',' :: rest =>
      let rest ← skipBetweenItems rest.length rest
      match rest with
      | ']' :: rest => return (.array items.reverse, rest)
      | _ => readItems fuel items rest
    | _ => refuse .unclosedArray rest

/-- The entries of an inline table after those read so far. -/
def readEntries : Nat → Entries → List Char → Result (Value × List Char)
  | 0, _, cs => refuse .unclosedInlineTable cs
  | fuel + 1, entries, cs => do
    let (key, rest) ← readKey cs.length cs
    match rest with
    | '=' :: rest =>
      let (value, rest) ← readValue fuel (rest.dropWhile isSpace)
      let entries ← orRefuse rest (assignInline entries key value)
      match rest.dropWhile isSpace with
      | '}' :: rest => return (.table (entryValues entries), rest)
      | ',' :: rest => readEntries fuel entries (rest.dropWhile isSpace)
      | rest => refuse .unclosedInlineTable rest
    | _ => refuse .missingEquals rest

end

/-- A key with its value. -/
def readAssignment (d : Document) (cs : List Char) : Result (Document × List Char) := do
  let (key, rest) ← readKey cs.length cs
  match rest with
  | '=' :: rest =>
    let rest := rest.dropWhile isSpace
    let (value, rest) ← readValue (2 * rest.length + 2) rest
    let d ← orRefuse rest (d.assign key value)
    return (d, rest)
  | _ => refuse .missingEquals rest

/-- The header of a table or of a list of tables. -/
def readHeader (d : Document) (cs : List Char) : Result (Document × List Char) := do
  match after? "[[" cs with
  | some rest =>
    let (key, rest) ← readKey cs.length (rest.dropWhile isSpace)
    let d ← orRefuse rest (d.openListedTable key)
    match after? "]]" rest with
    | some rest => return (d, rest)
    | none => refuse .unclosedListHeader rest
  | none =>
    let (key, rest) ← readKey cs.length ((cs.drop 1).dropWhile isSpace)
    let d ← orRefuse rest (d.openTable key)
    match after? "]" rest with
    | some rest => return (d, rest)
    | none => refuse .unclosedHeader rest

/-- Whether a key may begin with a character. -/
def beginsKey (c : Char) : Bool :=
  isBareKey c || c == '"' || c == '\''

/-- One statement, which may be empty. -/
def readStatement (d : Document) (cs : List Char) : Result (Document × List Char) :=
  match cs with
  | [] => .ok (d, [])
  | c :: _ =>
    if c = '\n' ∨ c = '#' then .ok (d, cs)
    else if beginsKey c then readAssignment d cs
    else if c = '[' then readHeader d cs
    else refuse .invalidStatement cs

/-- The statements of a document, each ended by a line feed or the end of the document. -/
def readStatements : Nat → Document → List Char → Result Document
  | 0, d, _ => .ok d
  | fuel + 1, d, cs => do
    let (d, rest) ← readStatement d (cs.dropWhile isSpace)
    match ← skipComment (rest.dropWhile isSpace) with
    | [] => return d
    | '\n' :: rest => readStatements fuel d rest
    | rest => refuse .goesOn rest

/-- Characters in which a carriage return before a line feed is left out. -/
def dropReturns : List Char → List Char
  | [] => []
  | '\r' :: '\n' :: cs => '\n' :: dropReturns cs
  | c :: cs => c :: dropReturns cs

/-- The table that a document stands for, or why it cannot be read. Places in a document are those
after the carriage returns are left out. -/
def parse (text : String) : Except Fault (List (String × Value)) :=
  let cs := dropReturns text.toList
  match readStatements (cs.length + 1) {} cs with
  | .ok d => .ok d.toTable
  | .error refusal => .error (refusal.fault cs)

end Diagnostics.Toml
