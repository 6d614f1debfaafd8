/-!
# Paths

A path is an absolute or relative sequence of names. Writing a path down leaves out empty names and
the name of the directory itself, and keeps the name of the directory above: what that stands for
depends on where the path is used.
-/

namespace Diagnostics

/-- A path to a file or directory. -/
structure Path where
  /-- What an absolute path begins with; empty for a relative path. -/
  root : String := ""
  names : List String := []
  deriving DecidableEq, Repr

namespace Path

/-- The names between slashes; there is one more than there are slashes. -/
def cutAtSlashes : List Char → List (List Char)
  | [] => [[]]
  | c :: cs =>
    if c = '/' then [] :: cutAtSlashes cs
    else
      match cutAtSlashes cs with
      | [] => [[c]]
      | name :: names => (c :: name) :: names

/-- The names between slashes that are not empty. -/
def components (s : String) : List String :=
  ((cutAtSlashes s.toList).filter (!·.isEmpty)).map String.ofList

/-- What a path begins with: nothing, one slash, or exactly two slashes. -/
def rootOf : List Char → String
  | '/' :: '/' :: '/' :: _ => "/"
  | '/' :: '/' :: _ => "//"
  | '/' :: _ => "/"
  | _ => ""

/-- The path that a text stands for. -/
def ofText (s : String) : Path where
  root := rootOf s.toList
  names := (components s).filter (· != ".")

/-- A path as text; the empty relative path is written as a point. -/
def text (p : Path) : String :=
  if p.root.isEmpty && p.names.isEmpty then "." else p.root ++ "/".intercalate p.names

/-- The last name of a path. -/
def name (p : Path) : String :=
  p.names.getLast?.getD ""

/-- Follow names from a directory, given by its names from the root on, where `..` leads to the
directory above and the root is above itself. -/
def follow (directory : List String) : List String → List String
  | [] => directory
  | name :: rest =>
    if name = "." then follow directory rest
    else if name = ".." then follow directory.dropLast rest
    else follow (directory ++ [name]) rest

/-- The names from the root on that a path leads to from a working directory. -/
def resolve (directory : List String) (p : Path) : List String :=
  follow (if p.root.isEmpty then directory else []) p.names

/-- Names from the root on as the text of an absolute path. -/
def absoluteText (names : List String) : String :=
  "/" ++ "/".intercalate names

end Path

end Diagnostics
