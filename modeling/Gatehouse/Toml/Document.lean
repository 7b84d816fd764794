import Gatehouse.Toml.Scalar

/-!
# TOML documents

A document is a sequence of statements, one to a line: a value for a key, the header
of a table, or the header of one more table of a name.  Arrays and inline tables may
run over several lines, with comments between their parts.

`Statement.all` reads a document into its statements.  Whether they go together is
not its question; only an inline table is checked on the spot, since it is a value
as soon as its brace is closed.

The statements of a document are carried out in order.  Values go to the table whose
header was read last, and to the outermost table before the first header.
-/

namespace Gatehouse.Toml

/-- A key: the names of the tables that it leads through and its own name. -/
structure Key where
  path : List String
  name : String
  deriving DecidableEq, Repr

/-- A line of a document that says something. -/
inductive Statement where
  | assign (key : Key) (value : Toml)
  | openTable (key : Key)
  | appendTable (key : Key)

/-! ## Space, comments and line breaks -/

/-- Leave out white space within a line. -/
def dropSpace (cs : List Char) : List Char := cs.dropWhile isSpace

/-- Leave out white space, line breaks and comments.  With `comment` the text begins
within a comment. -/
def dropBreaks (comment : Bool) : List Char → Option (List Char)
  | [] => some []
  | '\n' :: rest => dropBreaks false rest
  | '\r' :: '\n' :: rest => dropBreaks false rest
  | c :: rest =>
    if comment then (if isPlainChar c then dropBreaks true rest else none)
    else if c = '#' then dropBreaks true rest
    else if isSpace c then dropBreaks false rest
    else some (c :: rest)

/-- What follows the line: nothing may be left on it but white space and a comment. -/
def afterLine? (cs : List Char) : Option (List Char) :=
  match dropSpace cs with
  | '#' :: rest => dropBreaks true rest
  | [] => some []
  | '\n' :: rest => some rest
  | '\r' :: '\n' :: rest => some rest
  | _ => none

/-! ## Keys -/

/-- A character of a name that is not quoted. -/
def isNameChar (c : Char) : Bool := c.isAlphanum || c = '-' || c = '_'

/-- A name within a key. -/
def name? (cs : List Char) : Option (String × List Char) :=
  match cs with
  | '"' :: _ | '\'' :: _ => (lineText? cs).map fun (chars, rest) => (String.ofList chars, rest)
  | cs =>
    let name := cs.takeWhile isNameChar
    if name = [] then none else some (String.ofList name, cs.dropWhile isNameChar)

/-- A key and what follows it and the space behind it. -/
def key? : Nat → List Char → Option (Key × List Char)
  | 0, _ => none
  | fuel + 1, cs => do
    let (name, rest) ← name? cs
    match dropSpace rest with
    | '.' :: rest =>
      let (key, rest) ← key? fuel (dropSpace rest)
      return (⟨name :: key.path, key.name⟩, rest)
    | rest => return (⟨[], name⟩, rest)

/-! ## Values -/

/-- A character of a number or a word. -/
def isBareChar (c : Char) : Bool := c.isAlphanum || c = '+' || c = '-' || c = '_' || c = '.'

mutual

/-- A value and what follows it. -/
def value? : Nat → List Char → Option (Toml × List Char)
  | 0, _ => none
  | fuel + 1, cs =>
    match cs with
    | '[' :: rest => do
      let (items, rest) ← items? fuel (← dropBreaks false rest)
      return (array items, rest)
    | '\x7b' :: rest => do
      let (entries, rest) ← members? fuel [] (← dropBreaks false rest)
      return (table (finishEntries entries), rest)
    | '"' :: _ | '\'' :: _ => do
      let (s, rest) ← text? cs
      return (text (String.ofList s), rest)
    | cs => (bare? (cs.takeWhile isBareChar)).map fun v => (v, cs.dropWhile isBareChar)

/-- The items of an array that is not closed yet. -/
def items? : Nat → List Char → Option (List Toml × List Char)
  | 0, _ => none
  | fuel + 1, cs =>
    match cs with
    | ']' :: rest => some ([], rest)
    | cs => do
      let (item, rest) ← value? fuel cs
      match ← dropBreaks false rest with
      | ']' :: rest => return ([item], rest)
      | ',' :: rest =>
        let (items, rest) ← items? fuel (← dropBreaks false rest)
        return (item :: items, rest)
      | _ => none

/-- The entries of an inline table that is not closed yet. -/
def members? : Nat → Entries → List Char → Option (Entries × List Char)
  | 0, _, _ => none
  | fuel + 1, entries, cs =>
    match cs with
    | '\x7d' :: rest => some (entries, rest)
    | cs => do
      let (key, value, rest) ← assignment? fuel cs
      let entries ← Entries.assign key.path key.name value entries
      match ← dropBreaks false rest with
      | '\x7d' :: rest => return (entries, rest)
      | ',' :: rest => members? fuel entries (← dropBreaks false rest)
      | _ => none

/-- A key with its value. -/
def assignment? : Nat → List Char → Option (Key × Toml × List Char)
  | 0, _ => none
  | fuel + 1, cs => do
    let (key, rest) ← key? (fuel + 1) cs
    match rest with
    | '=' :: rest =>
      let (value, rest) ← value? fuel (dropSpace rest)
      return (key, value, rest)
    | _ => none

end

/-! ## Statements -/

namespace Statement

/-- A statement and what follows its line. -/
def read? (fuel : Nat) (cs : List Char) : Option (Statement × List Char) :=
  match cs with
  | '[' :: '[' :: rest => do
    let (key, rest) ← key? fuel (dropSpace rest)
    match rest with
    | ']' :: ']' :: rest => return (appendTable key, ← afterLine? rest)
    | _ => none
  | '[' :: rest => do
    let (key, rest) ← key? fuel (dropSpace rest)
    match rest with
    | ']' :: rest => return (openTable key, ← afterLine? rest)
    | _ => none
  | cs => do
    let (key, value, rest) ← assignment? fuel cs
    return (assign key value, ← afterLine? rest)

/-- The statements of a text.  Every step takes a character, so the length of the text
is fuel enough. -/
def readAll? (depth : Nat) : Nat → List Char → Option (List Statement)
  | 0, _ => none
  | fuel + 1, cs => do
    match ← dropBreaks false cs with
    | [] => return []
    | cs =>
      let (statement, rest) ← read? depth cs
      let statements ← readAll? depth fuel rest
      return statement :: statements

/-- The statements of a document, which may begin with a byte order mark. -/
def all? (text : String) : Option (List Statement) :=
  let cs :=
    match text.toList with
    | '\uFEFF' :: cs => cs
    | cs => cs
  readAll? (2 * cs.length + 2) (cs.length + 1) cs

end Statement

/-! ## Documents -/

/-- What has been read of a document. -/
structure Draft where
  root : Entries
  /-- The path of the table that values go to. -/
  current : List String

/-- Carry out a statement, if it is allowed. -/
def Draft.apply? (draft : Draft) : Statement → Option Draft
  | .assign key value =>
    (draft.root.assignIn draft.current key.path key.name value).map fun root =>
      { draft with root := root }
  | .openTable key =>
    (draft.root.openTable key.path key.name).map fun root => ⟨root, key.path ++ [key.name]⟩
  | .appendTable key =>
    (draft.root.appendTable key.path key.name).map fun root => ⟨root, key.path ++ [key.name]⟩

/-- The value of a document. -/
def parse? (text : String) : Option Toml := do
  let statements ← Statement.all? text
  let draft ← statements.foldlM Draft.apply? ⟨[], []⟩
  return .table (finishEntries draft.root)

end Gatehouse.Toml
