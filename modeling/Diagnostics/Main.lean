import Diagnostics.Command.Run

/-!
# The program

The program looks at the parts of the file system that its arguments can lead to, runs the command
on what it has seen, and does what the outcome says.
-/

namespace Diagnostics.Main

/-- Add what is found at some names to a tree: a directory, or a file with its octets. -/
def look (names : List String) (t : FileTree) : IO FileTree := do
  let place := (← IO.currentDir) / Path.absoluteText names
  if ← place.isDir then
    return if t.hasDirectory names then t else t.put names (.directory [])
  else if ← place.pathExists then
    return t.put names (.file (← IO.FS.readBinFile place).toList)
  else return t

/-- Add a directory and its settings file. -/
def lookAround (names : List String) (t : FileTree) : IO FileTree := do
  let t ← look names t
  look (names ++ [Settings.fileName]) t

/-- Add all that a path passes through. -/
def lookAlong (directory : List String) (path : String) (t : FileTree) : IO FileTree := do
  let start := FileTree.origin directory path
  let names := Path.components path
  let places := (List.range (names.length + 1)).map fun n => Path.follow start (names.take n)
  places.foldlM (fun t place => lookAround place t) t

/-- The texts in an argument that can be paths: the whole of it, and a value attached to an option
by one dash or two. -/
def candidates (argument : String) : List String :=
  [argument, String.ofList (argument.toList.drop 2)] ++
    (Command.splitValue argument.toList).2.toList

/-- The part of the file system that arguments can lead to. -/
def snapshot (directory : List String) (arguments : List String) : IO FileTree := do
  let above := (List.range (directory.length + 1)).map fun n => directory.take n
  let t ← above.foldlM (fun t names => lookAround names t) (.directory [])
  let paths := (arguments.flatMap candidates).filter fun path => !path.toList.contains '\x00'
  paths.foldlM (fun t path => lookAlong directory path t) t

end Diagnostics.Main

open Diagnostics in
/-- Run the command that the arguments ask for. -/
def main (arguments : List String) : IO UInt32 := do
  let directory := Path.components (← IO.currentDir).toString
  let t ← Main.snapshot directory arguments
  let outcome := Command.run t directory arguments
  IO.eprint outcome.stderr
  match outcome.fault with
  | some fault => IO.eprintln s!"Error: {fault.message}"
  | none => pure ()
  IO.print outcome.stdout
  match outcome.written with
  | some (names, text) => IO.FS.writeFile (Path.absoluteText names) text
  | none => pure ()
  return UInt32.ofNat outcome.status
