import Diagnostics.Toml.Refusal
import Diagnostics.Toml.Value

/-!
# Building a TOML document

A document grows by statements: a key with a value, or the name of a table that the statements after
it belong to. Each table remembers how it came about, because that decides which later statements
may open it again. A key that cannot be followed clashes with what stands in its way or at its end,
and the statement that it belongs to decides what is complained about.
-/

namespace Diagnostics.Toml

/-- How a table came about. -/
inductive Origin
  /-- It was passed through on the way to a table named in a header. -/
  | implicit
  /-- It was named by a dotted key in the section with this number. -/
  | dotted (number : Nat)
  /-- It was named in a header. -/
  | declared
  deriving DecidableEq, Repr

/-- A node of a document under construction. -/
inductive Node
  /-- A finished value, which no later statement may enter. -/
  | leaf (value : Value)
  | table (origin : Origin) (entries : List (String × Node))
  /-- Tables declared one after another under one name. The last one, which comes first here, is
  the one that later statements enter. -/
  | tables (last : List (String × Node)) (earlier : List (List (String × Node)))
  deriving Inhabited

/-- The entries of a table. -/
abbrev Entries := List (String × Node)

/-- Replace the entry of a key, or add it after the others. -/
def Entries.put (key : String) (node : Node) : Entries → Entries
  | [] => [(key, node)]
  | (name, old) :: rest =>
    if name = key then (name, node) :: rest else (name, old) :: Entries.put key node rest

/-- Whether a dotted key in a section may pass through a table, and the origin it has after that. A
table that a header or an earlier section named is closed to dotted keys. -/
def Origin.passDotted (current : Nat) : Origin → Option Origin
  | implicit => some (dotted current)
  | dotted n => if n = current then some (dotted n) else none
  | declared => none

/-- What a key leads to. -/
inductive Holder
  /-- An array or a table that has been written as a value. -/
  | container
  /-- A value that holds no others. -/
  | scalar
  /-- A table that statements may enter, or a list of them. -/
  | table
  deriving DecidableEq, Repr

/-- What a node is to a key that leads to it. -/
def Node.holder : Node → Holder
  | leaf (.array _) => .container
  | leaf (.table _) => .container
  | leaf _ => .scalar
  | table _ _ => .table
  | tables _ _ => .table

/-- Why a key cannot be followed. -/
inductive Clash
  /-- The first `parts` parts of the key name a table that is closed to dotted keys. -/
  | closed (parts : Nat)
  /-- The key leads through a value. -/
  | through (holder : Holder)
  /-- There is something at the end of the key already. -/
  | taken (holder : Holder)
  deriving DecidableEq, Repr

/-- Give a value to a key below the table of the current section. The parts of the key before the
last one name tables; `passed` parts lie behind. -/
def assign (current : Nat) (value : Value) (passed : Nat) :
    List String → Entries → Except Clash Entries
  | [], _ => .error (.closed passed)
  | [key], entries =>
    match entries.lookup key with
    | some node => .error (.taken node.holder)
    | none => .ok (Entries.put key (.leaf value) entries)
  | key :: next :: rest, entries =>
    match entries.lookup key with
    | none => do
      let inner ← assign current value (passed + 1) (next :: rest) []
      return Entries.put key (.table (.dotted current) inner) entries
    | some (.table origin inner) =>
      match origin.passDotted current with
      | none => .error (.closed (passed + 1))
      | some origin => do
        let inner ← assign current value (passed + 1) (next :: rest) inner
        return Entries.put key (.table origin inner) entries
    | some (.tables _ _) => .error (.closed (passed + 1))
    | some (.leaf v) => .error (.through (Node.leaf v).holder)

/-- Change the entries of the table that a header leads to. Names on the way stand for tables of any
origin and for the last of several tables; a missing table is made. -/
def within (change : Entries → Except Clash Entries) :
    List String → Entries → Except Clash Entries
  | [], entries => change entries
  | key :: rest, entries =>
    match entries.lookup key with
    | none => do
      let inner ← within change rest []
      return Entries.put key (.table .implicit inner) entries
    | some (.table origin inner) => do
      let inner ← within change rest inner
      return Entries.put key (.table origin inner) entries
    | some (.tables last earlier) => do
      let last ← within change rest last
      return Entries.put key (.tables last earlier) entries
    | some (.leaf v) => .error (.through (Node.leaf v).holder)

/-- Declare the table with the given name. Only a table that has been passed through so far may be
declared again. -/
def declareTable (key : String) (entries : Entries) : Except Clash Entries :=
  match entries.lookup key with
  | none => .ok (Entries.put key (.table .declared []) entries)
  | some (.table .implicit inner) => .ok (Entries.put key (.table .declared inner) entries)
  | some node => .error (.taken node.holder)

/-- Declare one more table in the list of tables with the given name. -/
def appendTable (key : String) (entries : Entries) : Except Clash Entries :=
  match entries.lookup key with
  | none => .ok (Entries.put key (.tables [] []) entries)
  | some (.tables last earlier) => .ok (Entries.put key (.tables [] (last :: earlier)) entries)
  | some node => .error (.taken node.holder)

mutual

/-- The value of a node. -/
def Node.value : Node → Value
  | .leaf v => v
  | .table _ entries => .table (entryValues entries)
  | .tables last earlier => .array (tableValues earlier [.table (entryValues last)])

/-- The values of entries. -/
def entryValues : List (String × Node) → List (String × Value)
  | [] => []
  | (key, node) :: rest => (key, node.value) :: entryValues rest

/-- The tables of a list, which are given from the last to the first, before others. -/
def tableValues : List (List (String × Node)) → List Value → List Value
  | [], after => after
  | entries :: rest, after => tableValues rest (.table (entryValues entries) :: after)

end

/-- A document under construction. -/
structure Document where
  entries : Entries := []
  /-- The name of the table that statements belong to. -/
  header : List String := []
  /-- The number of headers so far. -/
  current : Nat := 0

namespace Document

/-- What is wrong with a key that clashes in a section. -/
def clashOfAssign (header key : List String) : Clash → Complaint
  | .closed parts => .redefined (header ++ key.take parts)
  | .through .container => .immutable (header ++ key.dropLast)
  | _ => .overwritten

/-- What is wrong with the header of a table that clashes. -/
def clashOfTable (key : List String) : Clash → Complaint
  | .through .container | .taken .container | .taken .table => .declaredTwice key
  | _ => .overwritten

/-- What is wrong with the header of a list of tables that clashes. -/
def clashOfListedTable (key : List String) : Clash → Complaint
  | .through .container | .taken .container => .immutable key
  | _ => .overwritten

/-- Give a value to a key in the current section. -/
def assign (d : Document) (key : List String) (value : Value) : Except Complaint Document := do
  let entries ← (within (Toml.assign d.current value 0 key) d.header d.entries).mapError
    (clashOfAssign d.header key)
  return { d with entries }

/-- Begin the section of a table, which is made by `change` at the end of its name. -/
def openSection (d : Document) (key : List String)
    (change : String → Entries → Except Clash Entries) (clash : List String → Clash → Complaint) :
    Except Complaint Document := do
  let entries ← (within (change (key.getLast?.getD "")) key.dropLast d.entries).mapError (clash key)
  return { entries, header := key, current := d.current + 1 }

/-- Begin the section of a table. -/
def openTable (d : Document) (key : List String) : Except Complaint Document :=
  d.openSection key declareTable clashOfTable

/-- Begin the section of one more table in a list of tables. -/
def openListedTable (d : Document) (key : List String) : Except Complaint Document :=
  d.openSection key appendTable clashOfListedTable

/-- The table that a document stands for. -/
def toTable (d : Document) : List (String × Value) :=
  entryValues d.entries

end Document

/-- What is wrong with a key that clashes in an inline table. -/
def clashOfInline (key : List String) : Clash → Complaint
  | .through .container | .taken .container => .immutable key
  | .taken _ => .duplicateKey (key.getLast?.getD "")
  | _ => .overwritten

/-- Give a value to a key of an inline table. -/
def assignInline (entries : Entries) (key : List String) (value : Value) :
    Except Complaint Entries :=
  (assign 0 value 0 key entries).mapError (clashOfInline key)

end Diagnostics.Toml
