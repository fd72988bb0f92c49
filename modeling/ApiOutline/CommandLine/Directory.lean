import ApiOutline.CommandLine.FileSystem
import ApiOutline.Text.Blank

/-!
The file system of a tree of directories. The names of a path are followed one after the other, from
the root if the path starts with a slash and else from the working directory, and all but the last
have to lead to directories. There are the directories on the way to a file, and some in which there
may be none.
-/

set_option autoImplicit false

namespace ApiOutline.CommandLine

/-- The names on the way from the root. -/
abbrev Path := List String

/-- The files in the root directory and below it. -/
structure Directory where
  files : List (Path × ByteArray)

namespace Directory

/-- What stays as it is, whatever is written: the directory in which paths without a slash at the
start begin, and directories that there are besides those on the way to a file. -/
structure Layout where
  working : Path := []
  directories : List Path := []

variable (layout : Layout) (directory : Directory)

def file? (place : Path) : Option ByteArray := directory.files.lookup place

def hasDirectory (place : Path) : Bool :=
  (layout.working :: layout.directories).any place.isPrefixOf ||
    directory.files.any fun file => place.isPrefixOf file.1 && place ≠ file.1

/-- The longest name in octets. -/
def maxNameSize : Nat := 255

/-- The longest path in octets. -/
def maxPathSize : Nat := 4095

/-- The place that a name in a directory leads to. The root is its own parent. -/
def enter (place : Path) (name : String) : Except FileFault Path :=
  if name = "." then .ok place
  else if name = ".." then .ok place.dropLast
  else if name.utf8ByteSize > maxNameSize then .error .nameTooLong
  else .ok (place ++ [name])

/-- Follows names, all but the last of which lead to directories. -/
def walk (place : Path) : Path → Except FileFault Path
  | [] => .ok place
  | name :: names =>
    if directory.hasDirectory layout place then do walk (← enter place name) names
    else .error (if (directory.file? place).isSome then .notDirectory else .notFound)

/-- The place of a path, and whether the path ends with a slash. -/
def locate (path : String) : Except FileFault (Path × Bool) := do
  if path.isEmpty then throw .notFound
  if path.utf8ByteSize > maxPathSize then throw .nameTooLong
  let names := ((Text.splitAt '/' path.toList).filter (!·.isEmpty)).map String.ofList
  let start := if path.startsWith "/" then [] else layout.working
  return (← directory.walk layout start names, path.endsWith "/")

/-- The content of the file at a path. -/
def read (path : String) : Except FileFault ByteArray := do
  let (place, slash) ← directory.locate layout path
  match directory.file? place with
  | some content => if slash then .error .notDirectory else .ok content
  | none => if directory.hasDirectory layout place then .error .isDirectory else .error .notFound

/-- The files with one at a place, instead of the one that may be there. -/
def put (place : Path) (content : ByteArray) : Directory :=
  ⟨(place, content) :: directory.files.filter (·.1 ≠ place)⟩

/-- The files after a content is written to the file at a path, which there need not be before. -/
def write (path : String) (content : ByteArray) : Except FileFault Directory := do
  let (place, slash) ← directory.locate layout path
  if slash || directory.hasDirectory layout place then .error .isDirectory
  else .ok (directory.put place content)

def fileSystem : FileSystem Directory := ⟨read layout, write layout⟩

end Directory

end ApiOutline.CommandLine
