import Gatehouse.Json

/-!
# Outlines of JSON documents

Whoever reads a document into a type of his own sees it from the left to the
right, and the first problem decides: a text where a number has to stand is
reported even if the document is broken further on, and a break is reported if it
comes first.  So reading needs the structure of a document before it is known
whether the document is well formed.

An `Outline` is that structure.  It goes as far as the document can be read, and at
the place where it cannot be read any further it holds the `Break`.  Lexing and
outlining never fail; all decisions are left to those who walk through the outline
in the order of the document, and nothing behind a break is ever looked at.

Two ways of walking that fit every value are here: `value?` reads it and `skim`
passes over it.
-/

namespace Gatehouse.Json

/-- The words with a meaning. -/
inductive Word where
  | null
  | true
  | false
  deriving DecidableEq, Repr

/-- The letters of a word. -/
def Word.letters : Word → List Char
  | null => ['n', 'u', 'l', 'l']
  | true => ['t', 'r', 'u', 'e']
  | false => ['f', 'a', 'l', 's', 'e']

/-- What a document is made of. -/
inductive Lexeme where
  | openArray
  | closeArray
  | openObject
  | closeObject
  | comma
  | colon
  | word (w : Word) (broken : Option Break)
  | number (n : Numeral)
  | quotation (q : Quotation)
  /-- A character that nothing begins with. -/
  | stray
  deriving DecidableEq, Repr

namespace Lexeme

/-- Read the letters that are left of a word. -/
def lexLetters : List Char → List Char → Option Break × List Char
  | [], cs => (none, cs)
  | _ :: _, [] => (some .truncated, [])
  | l :: ls, c :: cs => if l = c then lexLetters ls cs else (some .malformed, [])

/-- The word that begins with a letter. -/
def word? : Char → Option Word
  | 'n' => some .null
  | 't' => some .true
  | 'f' => some .false
  | _ => none

/-- Space between lexemes. -/
def isSpace (c : Char) : Bool := c = ' ' || c = '\n' || c = '\r' || c = '\t'

/-- Read one lexeme that begins with `c`, and return what follows it. -/
def lex (c : Char) (cs : List Char) : Lexeme × List Char :=
  if c = '[' then (openArray, cs)
  else if c = ']' then (closeArray, cs)
  else if c = '\x7b' then (openObject, cs)
  else if c = '\x7d' then (closeObject, cs)
  else if c = ',' then (comma, cs)
  else if c = ':' then (colon, cs)
  else if c = '"' then
    let (q, rest) := Quotation.lex cs
    (quotation q, rest)
  else if c = '-' ∨ c.isDigit then
    let (n, rest) := Numeral.lex (c :: cs)
    (number n, rest)
  else
    match word? c with
    | none => (stray, [])
    | some w =>
      let (broken, rest) := lexLetters w.letters.tail cs
      (word w broken, rest)

/-- Nothing can be read behind the lexeme. -/
def isLast : Lexeme → Bool
  | word _ broken => broken.isSome
  | number n => n.ending ≠ .complete
  | quotation q => q.broken.isSome
  | stray => true
  | _ => false

/-- Read lexemes up to the first break.  Every lexeme has a character, so the length
of the text is fuel enough. -/
def lexAll : Nat → List Char → List Lexeme
  | 0, _ => []
  | _ + 1, [] => []
  | fuel + 1, c :: cs =>
    if isSpace c then lexAll fuel cs
    else
      let (l, rest) := lex c cs
      if l.isLast then [l] else l :: lexAll fuel rest

/-- The lexemes of a text, up to the first break. -/
def ofText (text : String) : List Lexeme := lexAll text.toList.length text.toList

end Lexeme

/-- How an array or an object ends. -/
inductive Ending where
  | closed
  | broken (b : Break)
  deriving DecidableEq, Repr

/-- A container is read when it is closed. -/
def Ending.finish {α : Type} (x : α) : Ending → Except Break α
  | .closed => .ok x
  | .broken b => .error b

/-- A document as far as it can be read. -/
inductive Outline where
  /-- A value has to stand here and none does. -/
  | missing (b : Break)
  | word (w : Word) (broken : Option Break)
  | number (n : Numeral)
  | quotation (q : Quotation)
  | array (items : List Outline) (ending : Ending)
  /-- Member names are outlines as well, because it is for the reader to say what a
  name has to be. -/
  | object (members : List (Outline × Outline)) (ending : Ending)

instance : Inhabited Outline := ⟨.missing .truncated⟩

namespace Outline

mutual

/-- Outline the value at the front, and return the lexemes behind it. -/
def ofLexemes : Nat → List Lexeme → Outline × List Lexeme
  | 0, _ => (missing .truncated, [])
  | _ + 1, [] => (missing .truncated, [])
  | fuel + 1, l :: ls =>
    match l with
    | .word w broken => (word w broken, ls)
    | .number n => (number n, ls)
    | .quotation q => (quotation q, ls)
    | .openArray =>
      let (items, ending, rest) := firstItem fuel ls
      (array items ending, rest)
    | .openObject =>
      let (members, ending, rest) := firstMember fuel ls
      (object members ending, rest)
    | _ => (missing .malformed, [])

/-- Outline the items of an array behind its bracket. -/
def firstItem : Nat → List Lexeme → List Outline × Ending × List Lexeme
  | 0, _ => ([], .broken .truncated, [])
  | fuel + 1, ls =>
    match ls with
    | [] => ([], .broken .truncated, [])
    | .closeArray :: rest => ([], .closed, rest)
    | ls =>
      let (item, rest) := ofLexemes fuel ls
      let (items, ending, rest) := nextItem fuel rest
      (item :: items, ending, rest)

/-- Outline the items of an array behind one of them. -/
def nextItem : Nat → List Lexeme → List Outline × Ending × List Lexeme
  | 0, _ => ([], .broken .truncated, [])
  | fuel + 1, ls =>
    match ls with
    | [] => ([], .broken .truncated, [])
    | .closeArray :: rest => ([], .closed, rest)
    | .comma :: rest =>
      let (item, rest) := ofLexemes fuel rest
      let (items, ending, rest) := nextItem fuel rest
      (item :: items, ending, rest)
    | _ => ([], .broken .malformed, [])

/-- Outline the members of an object behind its brace. -/
def firstMember : Nat → List Lexeme → List (Outline × Outline) × Ending × List Lexeme
  | 0, _ => ([], .broken .truncated, [])
  | fuel + 1, ls =>
    match ls with
    | [] => ([], .broken .truncated, [])
    | .closeObject :: rest => ([], .closed, rest)
    | ls =>
      let (name, rest) := ofLexemes fuel ls
      let (value, rest) := memberValue fuel rest
      let (members, ending, rest) := nextMember fuel rest
      ((name, value) :: members, ending, rest)

/-- Outline the members of an object behind one of them. -/
def nextMember : Nat → List Lexeme → List (Outline × Outline) × Ending × List Lexeme
  | 0, _ => ([], .broken .truncated, [])
  | fuel + 1, ls =>
    match ls with
    | [] => ([], .broken .truncated, [])
    | .closeObject :: rest => ([], .closed, rest)
    | .comma :: rest =>
      let (name, rest) := ofLexemes fuel rest
      let (value, rest) := memberValue fuel rest
      let (members, ending, rest) := nextMember fuel rest
      ((name, value) :: members, ending, rest)
    | _ => ([], .broken .malformed, [])

/-- Outline the value of a member behind its name. -/
def memberValue : Nat → List Lexeme → Outline × List Lexeme
  | 0, _ => (missing .truncated, [])
  | fuel + 1, ls =>
    match ls with
    | [] => (missing .truncated, [])
    | .colon :: rest => ofLexemes fuel rest
    | _ => (missing .malformed, [])

end

/-- The outline of a document, and whether something follows it.  Every lexeme is
passed on at most twice before it is taken. -/
def ofText (text : String) : Outline × Bool :=
  let ls := Lexeme.ofText text
  let (outline, rest) := ofLexemes (2 * ls.length + 1) ls
  (outline, !rest.isEmpty)

/-! ## Walking through an outline -/

/-- The deepest nesting of values that are read. -/
def maxDepth : Nat := 127

/-- A word has a value if it is whole. -/
def wordValue (w : Word) (broken : Option Break) : Except Break Json :=
  match broken, w with
  | some b, _ => .error b
  | none, .null => .ok .null
  | none, .true => .ok (.bool true)
  | none, .false => .ok (.bool false)

/-- The name of a member has to be a text. -/
def nameText : Outline → Except Break String
  | .quotation q => q.value
  | .missing b => .error b
  | _ => .error .malformed

mutual

/-- The value of the document, unless it breaks off or is nested deeper than `depth`.
Of several members of an object with one name the last one counts. -/
def value? (depth : Nat) : Outline → Except Break Json
  | missing b => .error b
  | word w broken => wordValue w broken
  | number n => Json.number <$> n.value
  | quotation q => Json.string <$> q.value
  | array items ending =>
    match depth with
    | 0 => .error .malformed
    | deeper + 1 => do
      let values ← itemValues deeper items
      ending.finish (Json.array values)
  | object members ending =>
    match depth with
    | 0 => .error .malformed
    | deeper + 1 => do
      let values ← memberValues deeper members
      ending.finish (Json.object values)

/-- The values of the items of an array. -/
def itemValues (depth : Nat) : List Outline → Except Break (List Json)
  | [] => .ok []
  | item :: items => do
    let value ← value? depth item
    let values ← itemValues depth items
    return value :: values

/-- The members of an object. -/
def memberValues (depth : Nat) : List (Outline × Outline) → Except Break (List (String × Json))
  | [] => .ok []
  | (name, item) :: members => do
    let name ← nameText name
    let value ← value? depth item
    let values ← memberValues depth members
    return if values.any (·.1 == name) then values else (name, value) :: values

end

mutual

/-- Pass over a value.  Numbers may be too large and texts may hold halves of pairs,
but nothing may be missing. -/
def skim : Outline → Except Break Unit
  | missing b => .error b
  | word _ broken =>
    match broken with
    | none => .ok ()
    | some b => .error b
  | number n => if n.ending = .complete then .ok () else .error .malformed
  | quotation q =>
    match q.broken with
    | none => .ok ()
    | some b => .error b
  | array items ending => do
    skimItems items
    ending.finish ()
  | object members ending => do
    skimMembers members
    ending.finish ()

/-- Pass over the items of an array. -/
def skimItems : List Outline → Except Break Unit
  | [] => .ok ()
  | item :: items => do
    skim item
    skimItems items

/-- Pass over the members of an object. -/
def skimMembers : List (Outline × Outline) → Except Break Unit
  | [] => .ok ()
  | (name, value) :: members => do
    match name with
    | .quotation _ => skim name
    | .missing b => .error b
    | _ => .error .malformed
    skim value
    skimMembers members

end

end Outline

end Gatehouse.Json
