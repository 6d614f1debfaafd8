import Diagnostics.Command.Fault
import Diagnostics.Text.Similarity

/-!
# Reading arguments

Arguments are options and words. An option is spelled with two dashes and a name, or with one dash
and a letter; letters can be run together, and the value of an option can be attached to it. Reading
says which options occur, in their order, and which words are left; what they mean comes later. An
argument is a text of Unicode characters: a shell can pass octets that are no UTF-8, and what comes
of those is not described here.
-/

namespace Diagnostics.Command

/-- What an option or a word of the command line sets. -/
inductive Param
  | version
  | verbose
  | help
  | path
  | span
  | level
  | title
  | code
  | note
  | previousLines
  | nextLines
  | middleLines
  | ascii
  | color
  | output
  deriving DecidableEq, Repr

/-- Whether an option takes a value or turns something on or off. -/
inductive Action
  | value
  | turn (on : Bool)
  deriving DecidableEq, Repr

/-- One way to spell an option. -/
structure Spelling where
  text : String
  param : Param
  action : Action
  deriving DecidableEq, Repr

/-- An option as it occurs in the arguments. -/
inductive Event
  | value (param : Param) (text : String)
  | turn (param : Param) (on : Bool)
  deriving DecidableEq, Repr

/-- What an event sets. -/
def Event.param : Event → Param
  | value param _ => param
  | turn param _ => param

/-- Whether options may stand after words. -/
inductive Mixing
  | optionsFirst
  | anyOrder
  deriving DecidableEq, Repr

/-- Whether a spelling has two dashes. -/
def isLong (text : List Char) : Bool :=
  match text with
  | '-' :: '-' :: _ => true
  | _ => false

/-- Whether an argument is an option: a dash with something after it. -/
def isOption (argument : List Char) : Bool :=
  match argument with
  | '-' :: _ :: _ => true
  | _ => false

/-- The name of a long option and the value attached to it by an equals sign. -/
def splitValue (argument : List Char) : String × Option String :=
  let name := String.ofList (argument.takeWhile (· != '='))
  match argument.dropWhile (· != '=') with
  | [] => (name, none)
  | _ :: value => (name, some (String.ofList value))

/-- The long option of the given name. -/
def long? (options : List Spelling) (name : String) : Option Spelling :=
  options.find? fun s => s.text == name && isLong s.text.toList

/-- The fault of a long option that is not there. -/
def unknownLong (options : List Spelling) (name : String) : Fault :=
  .unknownOption name
    (Text.closeWords name ((options.map (·.text)).filter fun text => isLong text.toList))

/-- What one argument comes to: the options in it, and the option that takes the next argument as
its value, with the name it was given by. -/
structure Options where
  events : List Event := []
  waiting : Option (Param × String) := none

/-- Read letters that are run together after one dash. An option that takes a value ends the run,
and what follows its letter is its value. -/
def readLetters (options : List Spelling) : List Char → Except Fault Options
  | [] => .ok {}
  | c :: cs =>
    let name := String.ofList ['-', c]
    match options.find? (·.text == name) with
    | none => .error (.unknownOption name [])
    | some spelling =>
      match spelling.action with
      | .turn on => (readLetters options cs).map fun o =>
        { o with events := .turn spelling.param on :: o.events }
      | .value =>
        if cs.isEmpty then .ok { waiting := some (spelling.param, name) }
        else .ok { events := [.value spelling.param (String.ofList cs)] }

/-- Read a long option with the value attached to it. -/
def readLong (spelling : Spelling) (attached : Option String) : Except Fault Options :=
  match spelling.action, attached with
  | .turn on, none => .ok { events := [.turn spelling.param on] }
  | .turn _, some _ => .error (.unwantedValue spelling.text)
  | .value, none => .ok { waiting := some (spelling.param, spelling.text) }
  | .value, some value => .ok { events := [.value spelling.param value] }

/-- Read an argument that is an option. -/
def readOption (options : List Spelling) (argument : List Char) : Except Fault Options :=
  let (name, attached) := splitValue argument
  match long? options name with
  | some spelling => readLong spelling attached
  | none =>
    if isLong argument then .error (unknownLong options name)
    else readLetters options (argument.drop 1)

/-- Arguments that have been read: the options and the words, each in their order. -/
structure Reading where
  events : List Event := []
  words : List String := []

/-- Arguments with more options before them. -/
def Reading.after (events : List Event) (r : Reading) : Reading :=
  { r with events := events ++ r.events }

/-- Read arguments, when an option may be waiting for its value. Two dashes alone end the options;
so does the first word, unless options and words may be mixed. -/
def readArguments (options : List Spelling) (mixing : Mixing) :
    Option (Param × String) → List String → Except Fault Reading
  | none, [] => .ok {}
  | some (_, name), [] => .error (.missingValue name)
  | some (param, _), value :: rest =>
    (readArguments options mixing none rest).map (·.after [.value param value])
  | none, argument :: rest =>
    if argument = "--" then .ok { words := rest }
    else if isOption argument.toList then
      match readOption options argument.toList with
      | .error fault => .error fault
      | .ok o => (readArguments options mixing o.waiting rest).map (·.after o.events)
    else
      match mixing with
      | .optionsFirst => .ok { words := argument :: rest }
      | .anyOrder =>
        (readArguments options mixing none rest).map fun r =>
          { r with words := argument :: r.words }

/-- The values of an option, in their order. -/
def valuesOf (param : Param) (events : List Event) : List String :=
  events.filterMap fun event =>
    match event with
    | .value p text => if p = param then some text else none
    | .turn _ _ => none

/-- The last setting of an option that turns something on or off. -/
def lastTurn? (param : Param) (events : List Event) : Option Bool :=
  (events.filterMap fun event =>
    match event with
    | .turn p on => if p = param then some on else none
    | .value _ _ => none).getLast?

end Diagnostics.Command
