/-!
# Environments

A process has an environment, which is a list of texts of the form name, equals sign,
value.  A name has the value that follows it and the sign in the first text that
begins with them.

*References.*  Before a settings file is read, references of the form `$` and a name in
braces are replaced by values from the environment.  The text is taken line by line.  A
reference counts if it begins before the first number sign of its line, and it may reach
beyond that sign.  A value is put in as it is: it is not looked through for references.

`Fragment` is the view of a line that makes this precise.  A line is a list of
characters and references, found from the left to the right without overlap
(`fragments`), and expansion goes through that list with one bit of state, which says
whether a number sign has been passed.
-/

namespace Gatehouse

/-! ## References -/

/-- Values of variables by their names. -/
abbrev Lookup := String → Option String

namespace References

/-- A piece of a line. -/
inductive Fragment where
  | char (c : Char)
  /-- A reference to a name, which is not empty and has no closing brace. -/
  | reference (name : List Char)
  deriving DecidableEq, Repr

/-- The name before the next closing brace, and what follows the brace. -/
def nameBefore? : List Char → Option (List Char × List Char)
  | [] => none
  | '\x7d' :: rest => some ([], rest)
  | c :: rest => (nameBefore? rest).map fun (name, left) => (c :: name, left)

/-- The reference that begins a text, and what follows it. -/
def reference? : List Char → Option (List Char × List Char)
  | '$' :: '\x7b' :: rest =>
    match nameBefore? rest with
    | some (c :: name, left) => some (c :: name, left)
    | _ => none
  | _ => none

theorem length_nameBefore? {cs name left : List Char} (h : nameBefore? cs = some (name, left)) :
    left.length < cs.length := by
  induction cs generalizing name with
  | nil => simp [nameBefore?] at h
  | cons c rest ih =>
    unfold nameBefore? at h
    split at h
    · cases h
    · rename_i heq
      cases heq
      cases h
      simp
    · rename_i heq
      cases heq
      obtain ⟨⟨n, l⟩, hn, he⟩ := Option.map_eq_some_iff.mp h
      cases he
      have := ih hn
      simp only [List.length_cons]
      omega

theorem length_reference? {cs name left : List Char} (h : reference? cs = some (name, left)) :
    left.length < cs.length := by
  unfold reference? at h
  split at h
  · split at h
    · rename_i hn
      cases h
      have := length_nameBefore? hn
      simp only [List.length_cons]
      omega
    · cases h
  · cases h

/-- The pieces of a line. -/
def fragments (cs : List Char) : List Fragment :=
  match cs with
  | [] => []
  | c :: rest =>
    match _h : reference? (c :: rest) with
    | some (name, left) => .reference name :: fragments left
    | none => .char c :: fragments rest
termination_by cs.length
decreasing_by
  · exact length_reference? _h
  · simp

/-- The characters of a piece, as they stand in the line. -/
def Fragment.chars : Fragment → List Char
  | char c => [c]
  | reference name => '$' :: '\x7b' :: name ++ ['\x7d']

/-- Expand the references of a line.  With `commented` a number sign has been passed.
The error is the first name without a value. -/
def expandFragments (lookup : Lookup) (commented : Bool) : List Fragment → Except String (List Char)
  | [] => .ok []
  | fragment :: rest => do
    let chars ← match fragment, commented with
      | .reference name, false =>
        match lookup (String.ofList name) with
        | some value => .ok value.toList
        | none => .error (String.ofList name)
      | fragment, _ => .ok fragment.chars
    let more ← expandFragments lookup (commented || fragment.chars.contains '#') rest
    return chars ++ more

/-- Expand the references of a line. -/
def expandLine (lookup : Lookup) (line : List Char) : Except String (List Char) :=
  expandFragments lookup false (fragments line)

/-- A line without a carriage return at its end. -/
def dropReturn (line : List Char) : List Char :=
  if line.getLast? = some '\r' then line.dropLast else line

/-- Cut a text into lines.  Each comes with the question whether a line break ends it;
what is left behind the last break is a line only if it is not empty. -/
def linesOf : List Char → List (List Char × Bool)
  | [] => []
  | '\n' :: rest => ([], true) :: linesOf rest
  | c :: rest =>
    match linesOf rest with
    | (line, ended) :: lines => (c :: line, ended) :: lines
    | [] => [([c], false)]

/-- The text of a line that is read. -/
def lineText (line : List Char × Bool) : List Char :=
  if line.2 then dropReturn line.1 else line.1

/-- The line break behind a line. -/
def lineEnd (line : List Char × Bool) : List Char := if line.2 then ['\n'] else []

/-- Expand the references of a text, up to the first name without a value. -/
def expandLines (lookup : Lookup) : List (List Char × Bool) → Except String (List Char)
  | [] => .ok []
  | line :: lines => do
    let chars ← expandLine lookup (lineText line)
    let more ← expandLines lookup lines
    return chars ++ lineEnd line ++ more

/-- Replace the references in a text.  The error is the first name without a value. -/
def expand (lookup : Lookup) (text : String) : Except String String :=
  String.ofList <$> expandLines lookup (linesOf text.toList)

/-- The names that a text refers to, whether the reference counts or not. -/
def names (text : String) : List String :=
  (linesOf text.toList).flatMap fun line =>
    (fragments (lineText line)).filterMap fun
      | .char _ => none
      | .reference name => some (String.ofList name)

end References

/-! ## The environment of a process -/

/-- The texts of an environment. -/
abbrev Environment := List String

namespace Environment

/-- The environment with these names and values. -/
def ofEntries (entries : List (String × String)) : Environment :=
  entries.map fun e => e.1 ++ "=" ++ e.2

/-- What follows a beginning. -/
def after? : List Char → List Char → Option (List Char)
  | [], cs => some cs
  | _ :: _, [] => none
  | b :: bs, c :: cs => if b = c then after? bs cs else none

/-- The value of a name. -/
def lookup (environment : Environment) : Lookup := fun name =>
  if name = "" ∨ name.toList.contains '\x00' then none
  else
    environment.findSome? fun text =>
      (after? (name.toList ++ ['=']) text.toList).map String.ofList

end Environment

end Gatehouse
