import Diagnostics.Files.Tree
import Diagnostics.Text.Utf8
import Diagnostics.Toml.Grammar

/-!
# Settings

Settings are read from the file `doclog.toml` in the nearest directory that has one. Only the
character set is checked when they are read; all other values are kept as they stand in the file,
and what they mean is decided where they are used.
-/

namespace Diagnostics

/-- The two built-in character sets. -/
inductive Charset
  | unicode
  | ascii
  deriving DecidableEq, Repr

/-- The name of a character set. -/
def Charset.name : Charset → String
  | unicode => "unicode"
  | ascii => "ascii"

/-- The values that settings give, with their defaults. -/
structure Settings where
  charset : Charset := .unicode
  color : Toml.Value := .boolean false
  showNewlines : Toml.Value := .boolean false
  previousLines : Toml.Value := .integer 0
  nextLines : Toml.Value := .integer 0
  middleLines : Toml.Value := .integer 0
  deriving Inhabited

/-- Why settings cannot be read. -/
inductive SettingsFault
  /-- No directory from `start` up to the root has a settings file. -/
  | notFound (start : String)
  | file (path : String) (fault : FileFault)
  | encoding (fault : Text.Utf8Fault)
  | toml (fault : Toml.Fault)
  /-- A section is a value of this kind and no table. -/
  | notATable (kind : String)
  | charset (path : String)
  deriving DecidableEq, Repr

namespace Settings

/-- The name of a settings file. -/
def fileName : String := "doclog.toml"

end Settings

/-- The wording of a fault in settings. -/
def SettingsFault.message : SettingsFault → String
  | notFound start => s!"No {Settings.fileName} found in {start} or its parents"
  | file path fault => fault.messageAt path
  | encoding fault => fault.message
  | toml fault => fault.message
  | notATable kind => s!"'{kind}' object has no attribute 'get'"
  | charset path => s!"{path}: render.charset must be 'unicode' or 'ascii'"

namespace Settings

/-- The character set that a value names. -/
def charset? : Toml.Value → Option Charset
  | .string name =>
    if name == Charset.unicode.name then some .unicode
    else if name == Charset.ascii.name then some .ascii
    else none
  | _ => none

/-- The entries of a section; none if the document has no such section. -/
def section? (document : List (String × Toml.Value)) (name : String) :
    Except SettingsFault (Option (List (String × Toml.Value))) :=
  match document.lookup name with
  | none => .ok none
  | some (.table entries) => .ok (some entries)
  | some value => .error (.notATable value.kind)

/-- Take over the section that says how diagnostics are rendered. -/
def withRender (path : String) (settings : Settings) (entries : List (String × Toml.Value)) :
    Except SettingsFault Settings :=
  match charset? ((entries.lookup "charset").getD (.string Charset.unicode.name)) with
  | none => .error (.charset path)
  | some charset =>
    .ok { settings with
      charset
      color := (entries.lookup "color").getD settings.color
      showNewlines := (entries.lookup "show_newlines").getD settings.showNewlines }

/-- Take over the section that says which lines of a source are shown. -/
def withCode (settings : Settings) (entries : List (String × Toml.Value)) : Settings :=
  { settings with
    previousLines := (entries.lookup "previous_lines").getD settings.previousLines
    nextLines := (entries.lookup "next_lines").getD settings.nextLines
    middleLines := (entries.lookup "middle_lines").getD settings.middleLines }

/-- The settings that a document gives. Sections and entries that are not known are ignored. -/
def ofDocument (path : String) (document : List (String × Toml.Value)) :
    Except SettingsFault Settings := do
  let render ← section? document "render"
  let settings ← match render with
    | none => pure {}
    | some entries => withRender path {} entries
  let code ← section? document "code"
  return match code with
    | none => settings
    | some entries => settings.withCode entries

/-- The settings that the octets of a file give. -/
def ofOctets (path : String) (octets : List UInt8) : Except SettingsFault Settings :=
  match Text.decodeUtf8 octets with
  | .error fault => .error (.encoding fault)
  | .ok text =>
    match Toml.parse text with
    | .error fault => .error (.toml fault)
    | .ok document => ofDocument path document

/-- Read settings from a file. -/
def load (t : FileTree) (directory : List String) (path : String) :
    Except SettingsFault Settings :=
  match t.read directory path with
  | .error fault => .error (.file path fault)
  | .ok octets => ofOctets path octets

/-- Whether the names from the root on lead to a file, for the search of a settings file. -/
def leadsToFile (t : FileTree) (names : List String) : Except SettingsFault Bool :=
  match t.isFileAt names with
  | .error fault => .error (.file (Path.absoluteText names) fault)
  | .ok answer => .ok answer

/-- A directory and those above it, up to the root. -/
def ancestry (directory : List String) : List (List String) :=
  (List.range (directory.length + 1)).map fun up => directory.take (directory.length - up)

/-- The first of some directories that has a settings file. -/
def search (t : FileTree) : List (List String) → Except SettingsFault (Option (List String))
  | [] => .ok none
  | directory :: rest =>
    match leadsToFile t (directory ++ [fileName]) with
    | .error fault => .error fault
    | .ok true => .ok (some directory)
    | .ok false => search t rest

/-- The settings file that belongs to a path. The search begins in the directory that the path
leads to, or the one that holds it if it leads to a file. -/
def find (t : FileTree) (directory : List String) (path : String) :
    Except SettingsFault (List String) := do
  if path.toList.contains '\x00' then throw (.file path .zeroCharacter)
  let start := (Path.ofText path).resolve directory
  let isFile ← leadsToFile t start
  match ← search t (ancestry (if isFile then start.dropLast else start)) with
  | some found => return found ++ [fileName]
  | none => throw (.notFound (Path.absoluteText start))

/-- The settings that belong to a path with the file they come from, or the defaults. -/
def nearest (t : FileTree) (directory : List String) (path : String) :
    Except SettingsFault (Option String × Settings) :=
  match find t directory path with
  | .error (.notFound _) => .ok (none, {})
  | .error fault => .error fault
  | .ok names => do
    let path := Path.absoluteText names
    let settings ← load t directory path
    return (some path, settings)

end Settings

end Diagnostics
