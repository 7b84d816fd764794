import Gatehouse.Files.Basic

/-!
# File trees

A file tree is a working folder as a value: files in folders, and nothing known of
what lies around it.  `FileTree.files` says what can be read there.

A path is walked part by part.  An empty part and a dot stay where they are, two dots
go upwards, and any other part is a name in the folder that has been reached.  Every
part asks for a folder, so that a file cannot be gone through, not even by an empty
part at the end.  Above the working folder there are folders, of which nothing is
known but that they can be left upwards.
-/

namespace Gatehouse

/-- A place in a tree, as the names on the way to it. -/
abbrev Location := List String

/-- Files in folders. -/
structure FileTree where
  files : List (Location × ByteArray)
  /-- Folders, which need not hold anything. -/
  folders : List Location

namespace FileTree

/-- What stands at a location. -/
inductive Node where
  | file (bytes : ByteArray)
  | folder

/-- What stands at a location, if anything does.  A folder stands wherever something
stands below it. -/
def node? (t : FileTree) (location : Location) : Option Node :=
  match t.files.find? fun f => f.1 == location with
  | some (_, bytes) => some (.file bytes)
  | none =>
    if location = [] ∨ t.folders.any (location.isPrefixOf ·) ∨
        t.files.any (fun f => location.isPrefixOf f.1) then some .folder
    else none

/-- The names of the files directly in a folder. -/
def namesIn (t : FileTree) (location : Location) : List String :=
  t.files.filterMap fun f =>
    if f.1.dropLast = location then f.1.getLast? else none

/-- A place that a path has reached. -/
inductive Place where
  | inside (location : Location)
  /-- A folder around the tree. -/
  | outside

/-- No name has more bytes. -/
def maxName : Nat := 255

/-- No path has more bytes. -/
def maxPath : Nat := 4095

/-- Go into a folder by the next part of a path. -/
def enter (t : FileTree) (location : Location) (part : String) : Except FileFault Place :=
  if part = "" ∨ part = "." then .ok (.inside location)
  else if part = ".." then
    .ok (if location = [] then .outside else .inside location.dropLast)
  else if maxName < part.utf8ByteSize then .error .nameTooLong
  else
    match t.node? (location ++ [part]) with
    | none => .error .missing
    | some _ => .ok (.inside (location ++ [part]))

/-- Take the next part of a path. -/
def step (t : FileTree) (place : Place) (part : String) : Except FileFault Place :=
  match place with
  | .outside => if part = "" ∨ part = "." ∨ part = ".." then .ok .outside else .error .missing
  | .inside location =>
    match t.node? location with
    | none => .error .missing
    | some (.file _) => .error .notFolder
    | some .folder => t.enter location part

/-- The place at a path. -/
def walk (t : FileTree) (path : String) : Except FileFault Place :=
  if path.toList.contains '\x00' then .error .zeroInName
  else if path = "" then .error .missing
  else if maxPath < path.utf8ByteSize then .error .nameTooLong
  else
    let start := if path.toList.head? = some '/' then .outside else .inside []
    (Text.parts '/' path).foldlM t.step start

/-- What can be read in the tree. -/
def toFiles (t : FileTree) : Files where
  bytes path :=
    match t.walk path with
    | .error fault => .error fault
    | .ok .outside => .error .isFolder
    | .ok (.inside location) =>
      match t.node? location with
      | some (.file bytes) => .ok bytes
      | some .folder => .error .isFolder
      | none => .error .missing
  names path :=
    match t.walk path with
    | .error fault => .error fault
    | .ok .outside => .ok []
    | .ok (.inside location) =>
      match t.node? location with
      | some (.file _) => .error .notFolder
      | some .folder => .ok (t.namesIn location)
      | none => .error .missing

end FileTree

end Gatehouse
