import Diagnostics.Settings
import Diagnostics.Failure

/-!
# Faults of the command line

What a command line can be refused for, and what can go wrong while a command runs. Some faults are
reported by the command itself, in one line on its error output; all others are handed to whoever
ran the command.
-/

namespace Diagnostics.Command

/-- What can be wrong with a command line or with running it. -/
inductive Fault
  | missingCommand
  | unknownCommand (name : String)
  /-- An option that the command does not have, with the names of options that are close to it. -/
  | unknownOption (name : String) (close : List String)
  /-- An option stands at the end although it takes a value. -/
  | missingValue (option : String)
  /-- A value is given to an option that takes none. -/
  | unwantedValue (option : String)
  | missingArgument (name : String)
  | missingOption (name : String)
  | unexpectedArguments (arguments : List String)
  /-- The value of the span option has no colon. -/
  | notASpan (value : String)
  /-- The value of the span option has offsets that are no integers. -/
  | notOffsets (value : String)
  | notAChoice (option value : String) (choices : List String)
  | notAnInteger (option value : String)
  | sourceMissing (path : String)
  | sourceIsDirectory (path : String)
  /-- The output cannot be opened. -/
  | output (path : String) (fault : FileFault)
  /-- The source is not a text. -/
  | encoding (fault : Text.Utf8Fault)
  /-- The source cannot be read. -/
  | source (path : String) (fault : FileFault)
  | settings (fault : SettingsFault)
  | failure (failure : Failure)
  /-- A count of context lines would cut the lines of the source at a fraction of a line. -/
  | fractionalCount
  deriving DecidableEq, Repr

/-- A text between single quotation marks. -/
def inMarks (s : String) : String :=
  "'" ++ s ++ "'"

/-- What is said after the name of an unknown option. -/
def closeOptions : List String → String
  | [] => ""
  | [name] => s!" Did you mean {name}?"
  | names => " (Possible options: " ++ ", ".intercalate names ++ ")"

/-- The wording of a fault in the value of an option or argument. -/
def invalidValue (name message : String) : String :=
  s!"Invalid value for {inMarks name}: {message}"

/-- The wording of a fault. -/
def Fault.message : Fault → String
  | missingCommand => "Missing command."
  | unknownCommand name => s!"No such command {Text.quote name}."
  | unknownOption name close => s!"No such option: {name}" ++ closeOptions close
  | missingValue option => s!"Option {Text.quote option} requires an argument."
  | unwantedValue option => s!"Option {Text.quote option} does not take a value."
  | missingArgument name => s!"Missing argument {inMarks name}."
  | missingOption name => s!"Missing option {inMarks name}."
  | unexpectedArguments [argument] => s!"Got unexpected extra argument ({argument})"
  | unexpectedArguments arguments =>
    "Got unexpected extra arguments (" ++ " ".intercalate arguments ++ ")"
  | notASpan value => invalidValue "--span" s!"{inMarks value} is not START:END[:MESSAGE]"
  | notOffsets value => invalidValue "--span" s!"{inMarks value} has non-integer offsets"
  | notAChoice option value choices =>
    invalidValue option (s!"{Text.quote value} is not one of " ++
      ", ".intercalate (choices.map Text.quote) ++ ".")
  | notAnInteger option value => invalidValue option s!"{Text.quote value} is not a valid integer."
  | sourceMissing path => invalidValue "PATH" s!"File {Text.quote path} does not exist."
  | sourceIsDirectory path => invalidValue "PATH" s!"File {Text.quote path} is a directory."
  | output _ .zeroCharacter => FileFault.zeroCharacter.message
  | output path fault => s!"Could not open file {Text.quote path}: {fault.message}"
  | encoding fault => fault.message
  | source path fault => fault.messageAt path
  | settings fault => fault.message
  | failure f => f.message
  | fractionalCount => "'float' object cannot be interpreted as an integer"

/-- Whether a command reports a fault itself. It does so for sources and settings that cannot be
read as text, and for spans, counts and names that do not fit; it does not for values of a wrong
kind. -/
def Fault.isReported : Fault → Bool
  | encoding _ => true
  | settings (.notATable _) => false
  | settings (.file _ .zeroCharacter) => true
  | settings (.file _ _) => false
  | settings _ => true
  | failure (.unordered ..) => false
  | failure _ => true
  | _ => false

end Diagnostics.Command
