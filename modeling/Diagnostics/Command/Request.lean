import Diagnostics.Command.Arguments
import Diagnostics.Severity
import Diagnostics.Text.Lines

/-!
# Requests to render

The options and words of the `render` command become a request. They are checked one after another:
those that were given in the order in which they first occur, then the others in the order in which
the command lists them. The first that does not fit is the fault that is found.
-/

namespace Diagnostics.Command

/-- The options before the name of a command. -/
def outerOptions : List Spelling :=
  [⟨"--version", .version, .turn true⟩, ⟨"-v", .verbose, .turn true⟩,
    ⟨"--verbose", .verbose, .turn true⟩, ⟨"--help", .help, .turn true⟩]

/-- The options of the command that renders a file. -/
def renderOptions : List Spelling :=
  [⟨"--span", .span, .value⟩, ⟨"--level", .level, .value⟩, ⟨"--title", .title, .value⟩,
    ⟨"--code", .code, .value⟩, ⟨"--note", .note, .value⟩,
    ⟨"--previous-lines", .previousLines, .value⟩, ⟨"--next-lines", .nextLines, .value⟩,
    ⟨"--middle-lines", .middleLines, .value⟩, ⟨"--ascii", .ascii, .turn true⟩,
    ⟨"--color", .color, .turn true⟩, ⟨"--no-color", .color, .turn false⟩,
    ⟨"-o", .output, .value⟩, ⟨"--output", .output, .value⟩, ⟨"--help", .help, .turn true⟩]

/-- What the command that renders a file sets, in the order in which it lists them. -/
def renderParams : List Param :=
  [.path, .span, .level, .title, .code, .note, .previousLines, .nextLines, .middleLines, .ascii,
    .color, .output]

/-- The order in which what a command line sets is checked. Words come after the options given. -/
def checkingOrder (events : List Event) : List Param :=
  (events.map Event.param ++ .path :: renderParams).eraseDups

/-- A request to render a file. A setting that was not given is left to the settings file. -/
structure Request where
  path : String := ""
  spans : List Span := []
  level : Severity := .error
  title : String := ""
  code : Option String := none
  notes : List String := []
  previousLines : Option Int := none
  nextLines : Option Int := none
  middleLines : Option Int := none
  ascii : Bool := false
  color : Option Bool := none
  /-- The file to write, or a dash for the standard output. -/
  output : String := "-"
  deriving DecidableEq, Repr

/-- The characters before the first colon, and those after it if there is one. -/
def cutAtColon : List Char → List Char × Option (List Char)
  | [] => ([], none)
  | c :: cs =>
    if c = ':' then ([], some cs)
    else
      let (before, after) := cutAtColon cs
      (c :: before, after)

/-- The span that a value stands for: two offsets with a colon between them, and after another colon
a message, which may be empty and may hold colons. -/
def readSpan (value : String) : Except Fault Span :=
  match cutAtColon value.toList with
  | (_, none) => .error (.notASpan value)
  | (start, some rest) =>
    let (stop, message) := cutAtColon rest
    match Text.integer? (String.ofList start), Text.integer? (String.ofList stop) with
    | some start, some stop =>
      .ok { start, stop, trailingMessage := Text.nonempty? (message.map String.ofList) }
    | _, _ => .error (.notOffsets value)

/-- The names that the level option takes. -/
def levelChoices : List String :=
  Severity.all.map Severity.tag ++ ["warning"]

/-- The severity that a value of the level option stands for. -/
def readLevel (value : String) : Except Fault Severity :=
  match if levelChoices.contains value then Severity.parse? value else none with
  | some level => .ok level
  | none => .error (.notAChoice "--level" value levelChoices)

/-- The last value of an option that takes an integer, if it is given. -/
def readInteger (name : String) (param : Param) (events : List Event) :
    Except Fault (Option Int) :=
  match (valuesOf param events).getLast? with
  | none => .ok none
  | some value =>
    match Text.integer? value with
    | some n => .ok (some n)
    | none => .error (.notAnInteger name value)

/-- Check that a path leads to a file. -/
def checkPath (t : FileTree) (directory : List String) (path : String) : Except Fault Unit :=
  match t.locate directory path with
  | .error .zeroCharacter => .error (.source path .zeroCharacter)
  | .error _ => .error (.sourceMissing path)
  | .ok names => if t.hasDirectory names then .error (.sourceIsDirectory path) else .ok ()

/-- Take over one setting from the arguments. -/
def Request.take (t : FileTree) (directory : List String) (r : Reading) (request : Request) :
    Param → Except Fault Request
  | .path =>
    match r.words with
    | [] => .error (.missingArgument "PATH")
    | path :: _ => do
      checkPath t directory path
      return { request with path }
  | .span => do
    let values := valuesOf .span r.events
    if values.isEmpty then throw (.missingOption "--span")
    let spans ← values.mapM readSpan
    return { request with spans }
  | .level =>
    match (valuesOf .level r.events).getLast? with
    | none => .ok request
    | some value => (readLevel value).map fun level => { request with level }
  | .title => .ok { request with title := ((valuesOf .title r.events).getLast?).getD "" }
  | .code => .ok { request with code := (valuesOf .code r.events).getLast? }
  | .note => .ok { request with notes := valuesOf .note r.events }
  | .previousLines => do
    let previousLines ← readInteger "--previous-lines" .previousLines r.events
    return { request with previousLines }
  | .nextLines => do
    let nextLines ← readInteger "--next-lines" .nextLines r.events
    return { request with nextLines }
  | .middleLines => do
    let middleLines ← readInteger "--middle-lines" .middleLines r.events
    return { request with middleLines }
  | .ascii => .ok { request with ascii := (lastTurn? .ascii r.events).getD false }
  | .color => .ok { request with color := lastTurn? .color r.events }
  | .output => .ok { request with output := ((valuesOf .output r.events).getLast?).getD "-" }
  | .version | .verbose | .help => .ok request

/-- The request that arguments stand for. Words after the path are refused when all else is fine. -/
def Request.ofReading (t : FileTree) (directory : List String) (r : Reading) :
    Except Fault Request := do
  let request ← (checkingOrder r.events).foldlM (Request.take t directory r) {}
  match r.words.drop 1 with
  | [] => return request
  | extra => throw (.unexpectedArguments extra)

end Diagnostics.Command
