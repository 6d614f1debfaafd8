import Diagnostics.Files.Path
import Diagnostics.Text.Quoted

/-!
# File trees

A file tree holds files and directories under names. Looking a path up walks from directory to
directory: each name on the way must be there, and each but the last must be a directory, also when
the path goes up again after it. Names and paths have a greatest length in octets; a name is
measured when the walk comes to it, a path before the walk begins.
-/

namespace Diagnostics

/-- A file with its octets, or a directory with its entries. -/
inductive FileTree
  | file (octets : List UInt8)
  | directory (entries : List (String × FileTree))
  deriving Inhabited

/-- Why a path cannot be used. -/
inductive FileFault
  | missing
  | directory
  | notDirectory
  /-- A name or the whole path is longer than the system takes. -/
  | tooLong
  /-- No path holds a zero character. -/
  | zeroCharacter
  deriving DecidableEq, Repr

/-- The wording of a fault. -/
def FileFault.message : FileFault → String
  | missing => "No such file or directory"
  | directory => "Is a directory"
  | notDirectory => "Not a directory"
  | tooLong => "File name too long"
  | zeroCharacter => "embedded null byte"

/-- The number by which the system knows a fault; none for a fault found before it is asked. -/
def FileFault.number? : FileFault → Option Nat
  | missing => some 2
  | notDirectory => some 20
  | directory => some 21
  | tooLong => some 36
  | zeroCharacter => none

/-- The wording of a fault at a path. -/
def FileFault.messageAt (path : String) (fault : FileFault) : String :=
  match fault.number? with
  | none => fault.message
  | some number => s!"[Errno {number}] {fault.message}: {Text.quote path}"

namespace FileTree

/-- The greatest number of octets in a name. -/
def maximumName : Nat := 255

/-- The greatest number of octets in a path. -/
def maximumPath : Nat := 4095

/-- Whether a name has too many octets. -/
def isLongName (name : String) : Bool :=
  maximumName < name.utf8ByteSize

/-- Whether a path has too many octets. -/
def isLongPath (path : String) : Bool :=
  maximumPath < path.utf8ByteSize

/-- Whether a tree is a file. -/
def isFile : FileTree → Bool
  | file _ => true
  | directory _ => false

/-- What is at the given names below a tree. -/
def find? : FileTree → List String → Option FileTree
  | t, [] => some t
  | file _, _ :: _ => none
  | directory entries, name :: rest =>
    match entries.lookup name with
    | none => none
    | some t => t.find? rest

/-- Whether there is a file at the given names. -/
def hasFile (t : FileTree) (names : List String) : Bool :=
  match t.find? names with
  | some t => t.isFile
  | none => false

/-- Whether there is a directory at the given names. -/
def hasDirectory (t : FileTree) (names : List String) : Bool :=
  match t.find? names with
  | some (directory _) => true
  | _ => false

/-- Walk from one place in a tree along the names of a path. -/
def walk (t : FileTree) : List String → List String → Except FileFault (List String)
  | here, [] => .ok here
  | here, name :: rest =>
    if !t.hasDirectory here then .error .notDirectory
    else if name = "." then walk t here rest
    else if name = ".." then walk t here.dropLast rest
    else if isLongName name then .error .tooLong
    else
      match t.find? (here ++ [name]) with
      | none => .error .missing
      | some _ => walk t (here ++ [name]) rest

/-- Whether the names from the root on lead to a file. Names that lead nowhere do not; names that
are too long cannot be asked about. -/
def isFileAt (t : FileTree) (names : List String) : Except FileFault Bool :=
  if isLongPath (Path.absoluteText names) then .error .tooLong
  else
    match t.walk [] names with
    | .ok _ => .ok (t.hasFile names)
    | .error .tooLong => .error .tooLong
    | .error _ => .ok false

/-- Where a path begins: at the root, or in the working directory. -/
def origin (directory : List String) (path : String) : List String :=
  if path.toList.head? = some '/' then [] else directory

/-- Whether a path ends in a slash and so asks for a directory. -/
def asksDirectory (path : String) : Bool :=
  path.toList.getLast? = some '/'

/-- The names along a path. Asking for a directory is the same as naming it by a point. -/
def steps (path : String) : List String :=
  Path.components path ++ if asksDirectory path then ["."] else []

/-- The place in a tree that a path leads to. -/
def locate (t : FileTree) (directory : List String) (path : String) :
    Except FileFault (List String) :=
  if path.toList.contains '\x00' then .error .zeroCharacter
  else if path.isEmpty then .error .missing
  else if isLongPath path then .error .tooLong
  else t.walk (origin directory path) (steps path)

/-- The octets of the file that a path leads to. -/
def read (t : FileTree) (directory : List String) (path : String) :
    Except FileFault (List UInt8) :=
  match t.locate directory path with
  | .error fault => .error fault
  | .ok names =>
    match t.find? names with
    | some (file octets) => .ok octets
    | some (.directory _) => .error .directory
    | none => .error .missing

/-- The place of the file that writing to a path would make or replace. The directory must be there;
a path that does not end in a name of its own stands for a directory. -/
def target (t : FileTree) (directory : List String) (path : String) :
    Except FileFault (List String) := do
  if path.toList.contains '\x00' then throw .zeroCharacter
  if path.isEmpty then throw .missing
  if isLongPath path then throw .tooLong
  let above := (Path.components path).dropLast
  let parent ← t.walk (origin directory path) above
  match (steps path).getLast? with
  | none => throw .directory
  | some name =>
    if !t.hasDirectory parent then throw .notDirectory
    if name = "." ∨ name = ".." then throw .directory
    if isLongName name then throw .tooLong
    if t.hasDirectory (parent ++ [name]) then throw .directory
    return parent ++ [name]

/-- Put an entry under a name, in the place of the one that was there. -/
def putEntry (name : String) (t : FileTree) :
    List (String × FileTree) → List (String × FileTree)
  | [] => [(name, t)]
  | (other, old) :: rest =>
    if other = name then (other, t) :: rest else (other, old) :: putEntry name t rest

/-- The entries of a directory; a file has none. -/
def entries : FileTree → List (String × FileTree)
  | file _ => []
  | directory entries => entries

/-- A tree with another tree put at the given names, making the directories on the way. -/
def put : FileTree → List String → FileTree → FileTree
  | _, [], new => new
  | t, name :: rest, new =>
    let below := (t.entries.lookup name).getD (directory [])
    directory (putEntry name (below.put rest new) t.entries)

end FileTree

end Diagnostics
