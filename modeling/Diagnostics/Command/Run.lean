import Diagnostics.Builder
import Diagnostics.Command.Counts
import Diagnostics.Command.Request

/-!
# Running a command

A run is a function of the file tree, the working directory and the arguments. Its outcome says what
is printed, which file is written, and with what status the command ends. A run that does not end
well prints no diagnostic and writes no file.
-/

namespace Diagnostics.Command

/-- What a run comes to. -/
structure Outcome where
  status : Nat := 0
  stdout : String := ""
  stderr : String := ""
  /-- The place of the file that is written, and its text. -/
  written : Option (List String × String) := none
  /-- A fault that the command does not report itself. -/
  fault : Option Fault := none

/-- The version of the program. -/
def versionText : String := "doclog, version 0.1.0\n"

/-- The text of some lines. -/
def textOfLines (lines : List String) : String :=
  String.join (lines.map (· ++ "\n"))

/-- How the program is used, for an output of eighty columns. -/
def helpText : String :=
  textOfLines [
    "Usage: doclog [OPTIONS] COMMAND [ARGS]...",
    "",
    "  Render compiler-style diagnostics for source files.",
    "",
    "Options:",
    "  --version      Show the version and exit.",
    "  -v, --verbose  Log debug information to stderr.",
    "  --help         Show this message and exit.",
    "",
    "Commands:",
    "  render  Render highlighted byte ranges of PATH."]

/-- How the command that renders a file is used, for an output of eighty columns. -/
def renderHelpText : String :=
  textOfLines [
    "Usage: doclog render [OPTIONS] PATH",
    "",
    "  Render highlighted byte ranges of PATH.",
    "",
    "Options:",
    "  --span START:END[:MESSAGE]      Byte range to highlight (repeatable).",
    "                                  [required]",
    "  --level [trace|debug|info|warn|error|warning]",
    "                                  [default: error]",
    "  --title TEXT                    Title shown in the header line.",
    "  --code TEXT                     Diagnostic code, e.g. E042.",
    "  --note TEXT                     Note appended after the excerpt.",
    "  --previous-lines INTEGER        Context lines before.",
    "  --next-lines INTEGER            Context lines after.",
    "  --middle-lines INTEGER          Gap size shown instead of '···'.",
    "  --ascii                         Use ASCII glyphs.",
    "  --color / --no-color            Style output with ANSI colors.",
    "  -o, --output FILENAME           Destination file.",
    "  --help                          Show this message and exit."]

/-- A line for whoever follows what the command does. -/
def traceLine (verbose : Bool) (source message : String) : String :=
  if verbose then s!"doclog.{source}: {message}\n" else ""

/-- The status with which a command ends after a fault. A wrong command line has a status of its
own. -/
def Fault.status : Fault → Nat
  | .output .. | .encoding _ | .source .. | .settings _ | .failure _ | .fractionalCount => 1
  | _ => 2

/-- The outcome of a fault, after `trace` has been printed. -/
def Outcome.ofFault (trace : String) (fault : Fault) : Outcome :=
  if fault.isReported then
    { status := fault.status, stderr := trace ++ writtenForm false ("error: " ++ fault.message) }
  else { status := fault.status, stderr := trace, fault := some fault }

/-- The settings for a path, with the file they come from. -/
def readSettings (t : FileTree) (directory : List String) (path : String) :
    Except Fault (Option String × Settings) :=
  match Settings.nearest t directory path with
  | .ok found => .ok found
  | .error fault => .error (.settings fault)

/-- The text of a source file, in which each line break is a line feed. -/
def readSource (t : FileTree) (directory : List String) (path : String) :
    Except Fault Source :=
  match t.read directory path with
  | .error fault => .error (.source path fault)
  | .ok octets =>
    match Text.decodeUtf8 octets with
    | .error fault => .error (.encoding fault)
    | .ok text => .ok ⟨String.ofList (Text.unifyBreaks text.toList)⟩

/-- A count of context lines: the one on the command line, or else the one in the settings. -/
def chooseCount (given : Option Int) (configured : Toml.Value) : Toml.Value :=
  match given with
  | some n => .integer n
  | none => configured

/-- The diagnostic that a request asks for. -/
def buildDiagnostic (request : Request) (settings : Settings) (path : Path) (source : Source) :
    Except Fault Diagnostic := do
  let code ← makeCode source request.spans
    (chooseCount request.previousLines settings.previousLines)
    (chooseCount request.nextLines settings.nextLines)
    (chooseCount request.middleLines settings.middleLines)
    { filePath := some path.name, showNewlines := settings.showNewlines.isTrue }
  let header : Header :=
    { title := request.title, code := request.code, location := some path.text }
  return ⟨⟨request.level, .header header :: .code code :: request.notes.map (.note "note")⟩, []⟩

/-- The glyphs for a request. -/
def chooseGlyphs (request : Request) (settings : Settings) : Glyphs :=
  if request.ascii then .ascii
  else
    match settings.charset with
    | .unicode => .boxDrawing
    | .ascii => .ascii

/-- Whether the output for a request is in colour. -/
def chooseColor (request : Request) (settings : Settings) : Bool :=
  request.color.getD settings.color.isTrue

/-- Write a text where a request wants it. -/
def writeOutput (t : FileTree) (directory : List String) (request : Request)
    (trace text : String) : Outcome :=
  if request.output == "-" then { stdout := text, stderr := trace }
  else
    match t.target directory request.output with
    | .error fault => .ofFault trace (.output request.output fault)
    | .ok names => { stderr := trace, written := some (names, text) }

/-- Lay out a diagnostic and write it. -/
def deliver (t : FileTree) (directory : List String) (verbose : Bool) (request : Request)
    (settings : Settings) (trace : String) (d : Diagnostic) : Outcome :=
  let color := chooseColor request settings
  match d.render (chooseGlyphs request settings) color with
  | .error failure => .ofFault trace (.failure failure)
  | .ok lines =>
    let trace := trace ++ traceLine verbose "renderer"
      s!"rendered {d.report.kind.tag} log into {lines.length} line(s)"
    writeOutput t directory request trace (writtenForm color ("\n".intercalate lines))

/-- Render the file of a request. -/
def execute (t : FileTree) (directory : List String) (verbose : Bool) (request : Request) :
    Outcome :=
  let path := Path.ofText request.path
  match readSettings t directory request.path with
  | .error fault => .ofFault "" fault
  | .ok (origin, settings) =>
    let trace := match origin with
      | some file => traceLine verbose "config" s!"loaded config from {file}"
      | none => ""
    let diagnostic := do
      let source ← readSource t directory path.text
      buildDiagnostic request settings path source
    match diagnostic with
    | .error fault => .ofFault trace fault
    | .ok d =>
      let trace := trace ++ traceLine verbose "cli"
        s!"rendering {request.spans.length} span(s) from {path.text}"
      deliver t directory verbose request settings trace d

/-- Run the command that renders a file. -/
def render (t : FileTree) (directory : List String) (verbose : Bool) (arguments : List String) :
    Outcome :=
  match readArguments renderOptions .anyOrder none arguments with
  | .error fault => .ofFault "" fault
  | .ok r =>
    if (lastTurn? .help r.events).isSome then { stdout := renderHelpText }
    else
      match Request.ofReading t directory r with
      | .error fault => .ofFault "" fault
      | .ok request => execute t directory verbose request

/-- The first option that is obeyed at once, whatever else is on the command line. -/
def firstEager? (events : List Event) : Option Param :=
  (events.map Event.param).find? fun param => param == .version || param == .help

/-- Whether the name of a command looks like an option. -/
def looksLikeOption (name : String) : Bool :=
  match name.toList with
  | [] => false
  | c :: _ => c.toNat < 0x80 && !c.isAlphanum

/-- Run a command line. -/
def run (t : FileTree) (directory : List String) (arguments : List String) : Outcome :=
  if arguments.isEmpty then { stdout := helpText }
  else
    match readArguments outerOptions .optionsFirst none arguments with
    | .error fault => .ofFault "" fault
    | .ok r =>
      match firstEager? r.events, r.words with
      | some .version, _ => { stdout := versionText }
      | some _, _ => { stdout := helpText }
      | none, [] => .ofFault "" .missingCommand
      | none, name :: arguments =>
        if name = "render" then
          render t directory ((lastTurn? .verbose r.events).getD false) arguments
        else if looksLikeOption name then { stdout := helpText }
        else .ofFault "" (.unknownCommand name)

end Diagnostics.Command
