/-!
# Files by their paths

What stands at a path is a text, or something that cannot be read as one, such as a folder. A path
leads through names; names that are empty or a point stay where they are, and two points lead up.
-/

namespace Roster.CommandLine

namespace Path

/-- The parts of a path. -/
def parts (path : String) : List String :=
  path.splitOn "/"

/-- The names through which a path leads. -/
def names (path : String) : List String :=
  (parts path).filter fun part => part ≠ "" && part ≠ "."

/-- Whether a path starts at the root. -/
def isAbsolute (path : String) : Bool :=
  (parts path).length > 1 && (parts path).head? = some ""

/-- Whether two paths are the same up to parts that stay where they are. -/
def same (a b : String) : Bool :=
  isAbsolute a = isAbsolute b && names a = names b

/-- Whether a path leads from another one further down. -/
def isBelow (a b : String) : Bool :=
  isAbsolute a = isAbsolute b && (names b).isPrefixOf (names a) && names a ≠ names b

/-- Whether a path only leads up, which ends at a folder in any case. -/
def leadsUp (path : String) : Bool :=
  path ≠ "" && (names path).all (· = "..")

/-- Whether a path ends with a name. -/
def isNamed (path : String) : Bool :=
  (names path).getLast?.any (· ≠ "..")

/-- Whether a path goes on behind its last name, as that of a folder may. -/
def goesOn (path : String) : Bool :=
  (parts path).getLast?.any fun part => part = "" || part = "."

end Path

/-- What stands at a path. -/
inductive Content
  | nothing
  | text (contents : String)
  /-- A folder, or something else that is no text. -/
  | unreadable
  deriving DecidableEq, Repr

/-- The files that matter. -/
structure Files where
  /-- The texts of the files, by path. -/
  texts : List (String × String) := []
  /-- The paths at which something stands that is no text. -/
  unreadable : List String := []

namespace Files

/-- What stands at a path. -/
def look (files : Files) (path : String) : Content :=
  if Path.leadsUp path || files.unreadable.any (Path.same path) ||
      files.texts.any (fun file => Path.isBelow file.1 path && path ≠ "") then .unreadable
  else if Path.goesOn path then .nothing
  else
    match files.texts.find? fun file => Path.same file.1 path with
    | some file => .text file.2
    | none => .nothing

/-- Replace the text of a file. -/
def write (files : Files) (path contents : String) : Files :=
  { files with
    texts := (path, contents) :: files.texts.filter fun file => !Path.same file.1 path }

/-- Whether a path leads through a file. -/
def isObstructed (files : Files) (path : String) : Bool :=
  files.texts.any fun file => Path.isBelow path file.1

/-- Why the snapshot of a store cannot be kept at a path at which there is nothing yet. -/
def storeFault? (files : Files) (path : String) : Option String :=
  if files.isObstructed path then some "Failed to create store directory"
  else if !Path.isNamed path then some ("Failed to write store file " ++ path)
  else if Path.goesOn path then some ("Failed to replace store file " ++ path)
  else none

/-- Why a file cannot be written at a path at which there is nothing yet. -/
def writeFault? (files : Files) (path : String) : Option String :=
  if files.texts.any fun file => Path.isBelow path file.1 &&
      (Path.names path).length = (Path.names file.1).length + 1 then
    some "File exists (os error 17)"
  else if files.isObstructed path then some "Not a directory (os error 20)"
  else if path = "" || (Path.parts path).getLast? = some "." then
    some "No such file or directory (os error 2)"
  else if !Path.isNamed path || Path.goesOn path then some "Is a directory (os error 21)"
  else none

end Files

end Roster.CommandLine
