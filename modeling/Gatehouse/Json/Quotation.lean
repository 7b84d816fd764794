import Gatehouse.Text.Quoted

/-!
# Quoted texts in JSON

A text in a JSON document stands between double quotes, with escapes in it.  It is
read in two passes, because a document is looked at in two ways.

* `Quotation.lex` finds the end of the text.  It knows the escapes and nothing of
  what they mean, and it keeps what it has found even if the text is broken later
  on.  Skipping a text needs no more than that.
* `Quotation.value` puts the characters together.  Only here do the escapes of
  UTF-16 units matter, two of which can stand for one character.

Writing is the inverse, with the shortest escape for every character that has to
be escaped.
-/

namespace Gatehouse.Json

/-- Why the reading of a document cannot go on. -/
inductive Break where
  /-- What stands next cannot stand there. -/
  | malformed
  /-- The document ends too early. -/
  | truncated
  deriving DecidableEq, Repr

/-- What a quoted text is made of. -/
inductive Piece where
  /-- A character, written as it is or by a one letter escape. -/
  | char (c : Char)
  /-- A UTF-16 code unit, written by its number. -/
  | unit (n : Nat)
  deriving DecidableEq, Repr

/-- A quoted text as it is written. -/
structure Quotation where
  pieces : List Piece
  /-- How the text breaks off, if the closing quote is not reached. -/
  broken : Option Break
  deriving DecidableEq, Repr

/-- The character that a one letter escape stands for. -/
def escaped? : Char → Option Char
  | '"' => some '"'
  | '\\' => some '\\'
  | '/' => some '/'
  | 'b' => some '\x08'
  | 'f' => some '\x0c'
  | 'n' => some '\n'
  | 'r' => some '\r'
  | 't' => some '\t'
  | _ => none

namespace Quotation

/-- The quotation with one more piece in front. -/
def cons (piece : Piece) (q : Quotation) : Quotation := { q with pieces := piece :: q.pieces }

/-- Read up to the closing quote, the opening one being read already.  The second
result is what follows the text; there is nothing if the text is broken.

An escape by number needs four octets after it, so the text is truncated if there
are fewer, whatever they are. -/
def lex : List Char → Quotation × List Char
  | [] => (⟨[], some .truncated⟩, [])
  | '"' :: rest => (⟨[], none⟩, rest)
  | '\\' :: 'u' :: a :: b :: c :: d :: rest =>
    match Text.hexNumber? [a, b, c, d] with
    | none => (⟨[], some .malformed⟩, [])
    | some n =>
      let (q, left) := lex rest
      (q.cons (.unit n), left)
  | '\\' :: 'u' :: rest =>
    (⟨[], some (if (String.ofList rest).utf8ByteSize < 4 then .truncated else .malformed)⟩, [])
  | ['\\'] => (⟨[], some .truncated⟩, [])
  | '\\' :: e :: rest =>
    match escaped? e with
    | none => (⟨[], some .malformed⟩, [])
    | some c =>
      let (q, left) := lex rest
      (q.cons (.char c), left)
  | c :: rest =>
    if c.toNat < 0x20 then (⟨[], some .malformed⟩, [])
    else
      let (q, left) := lex rest
      (q.cons (.char c), left)

/-- The unit opens a pair. -/
def isHighUnit (n : Nat) : Bool := 0xD800 ≤ n && n ≤ 0xDBFF

/-- The unit closes a pair. -/
def isLowUnit (n : Nat) : Bool := 0xDC00 ≤ n && n ≤ 0xDFFF

/-- The character that a pair of units stands for. -/
def paired (high low : Nat) : Char :=
  Char.ofNat (0x10000 + (high - 0xD800) * 0x400 + (low - 0xDC00))

/-- The characters of the pieces, up to the first one that has none.  A unit that
opens a pair has to be followed by one that closes it. -/
def characters (broken : Option Break) : List Piece → Except Break (List Char)
  | [] =>
    match broken with
    | none => .ok []
    | some b => .error b
  | .char c :: rest => (c :: ·) <$> characters broken rest
  | .unit n :: rest =>
    if isHighUnit n then
      match rest with
      | [] => .error (broken.getD .malformed)
      | .char _ :: _ => .error .malformed
      | .unit m :: rest' =>
        if isLowUnit m then (paired n m :: ·) <$> characters broken rest'
        else .error .malformed
    else if isLowUnit n then .error .malformed
    else (Char.ofNat n :: ·) <$> characters broken rest

/-- The text that is quoted. -/
def value (q : Quotation) : Except Break String :=
  String.ofList <$> characters q.broken q.pieces

/-! ## Writing -/

/-- How a character is written in quotes. -/
def writeChar (c : Char) : List Char :=
  match c with
  | '"' => ['\\', '"']
  | '\\' => ['\\', '\\']
  | '\x08' => ['\\', 'b']
  | '\x0c' => ['\\', 'f']
  | '\n' => ['\\', 'n']
  | '\r' => ['\\', 'r']
  | '\t' => ['\\', 't']
  | c =>
    if c.toNat < 0x20 then
      ['\\', 'u', '0', '0', Text.hexDigit (c.toNat / 16), Text.hexDigit (c.toNat % 16)]
    else [c]

/-- The quoted form of a text. -/
def write (text : String) : List Char := '"' :: text.toList.flatMap writeChar ++ ['"']

end Quotation

end Gatehouse.Json
