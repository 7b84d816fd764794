import Gatehouse.Text

/-!
# Files

What there is to read: for every path, the bytes of the file there or the reason why
they cannot be read, and the same for the names in a folder.  `Files` is a snapshot.
Whoever takes it is concerned with devices and permissions; everything else is a
function of it.

Texts are UTF-8, and a file that is none has no text.
-/

namespace Gatehouse

/-- Why a file or folder cannot be read. -/
inductive FileFault where
  | missing
  /-- A file was expected. -/
  | isFolder
  /-- A folder was expected. -/
  | notFolder
  | nameTooLong
  /-- No name has a character of code zero. -/
  | zeroInName
  /-- The bytes are no text. -/
  | notText
  /-- Something else, with its number. -/
  | other (text : String) (code : Nat)
  deriving DecidableEq, Repr

/-- The wording of a fault. -/
def FileFault.message : FileFault → String
  | missing => "No such file or directory (os error 2)"
  | isFolder => "Is a directory (os error 21)"
  | notFolder => "Not a directory (os error 20)"
  | nameTooLong => "File name too long (os error 36)"
  | zeroInName => "file name contained an unexpected NUL byte"
  | notText => "stream did not contain valid UTF-8"
  | other text code => text ++ " (os error " ++ toString code ++ ")"

/-- What there is to read. -/
structure Files where
  /-- The bytes of the file at a path. -/
  bytes : String → Except FileFault ByteArray
  /-- The names of the regular files in the folder at a path. -/
  names : String → Except FileFault (List String)

namespace Files

/-- There is nothing to read. -/
def none : Files := ⟨fun _ => .error .missing, fun _ => .error .missing⟩

/-- The text of the file at a path. -/
def text (files : Files) (path : String) : Except FileFault String :=
  match files.bytes path with
  | .error fault => .error fault
  | .ok bytes =>
    match String.fromUTF8? bytes with
    | .none => .error .notText
    | some text => .ok text

/-- The files with something else at one path. -/
def setBytes (files : Files) (path : String) (bytes : Except FileFault ByteArray) : Files :=
  { files with bytes := fun other => if other = path then bytes else files.bytes other }

/-- The files with other names in one folder. -/
def setNames (files : Files) (path : String) (names : Except FileFault (List String)) : Files :=
  { files with names := fun other => if other = path then names else files.names other }

end Files

/-! ## Paths -/

namespace FilePath

/-- The last name on a path.  A path that ends in a step upwards has none. -/
def name? (path : String) : Option String :=
  match (Text.parts '/' path).reverse.dropWhile fun part => part == "" || part == "." with
  | [] => none
  | name :: _ => if name = ".." then none else some name

/-- A name in two pieces, cut at the last dot, unless there is nothing before it. -/
def cut? (name : String) : Option (String × String) :=
  match (Text.parts '.' name).reverse with
  | [] => none
  | last :: before =>
    let stem := Text.join '.' before.reverse
    if before = [] ∨ stem = "" then none else some (stem, last)

/-- The name without its extension. -/
def stem (name : String) : String :=
  match cut? name with
  | none => name
  | some (stem, _) => stem

/-- The extension of a name. -/
def extension? (name : String) : Option String := (cut? name).map (·.2)

/-- The path of a name in a folder. -/
def inFolder (folder name : String) : String :=
  if folder = "" ∨ folder.toList.getLast? = some '/' then folder ++ name
  else folder ++ "/" ++ name

end FilePath

end Gatehouse
