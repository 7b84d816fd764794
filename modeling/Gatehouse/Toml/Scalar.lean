import Gatehouse.Text.Quoted
import Gatehouse.Toml

/-!
# Texts and numbers in TOML

A text is quoted once or three times, with quotes that allow escapes or with quotes
that do not.  Three quotes let a text run over lines; the line break behind them is
not part of it, and a backslash at the end of a line swallows the white space up to
the next character.

Numbers may have underscores between their digits.  A double is the nearest one to
the decimal that is written, and it has to be finite unless it is `inf` or `nan`.

Every reader here returns what follows the thing that it has read.
-/

namespace Gatehouse.Toml

/-- A character that may stand for itself in a text or a comment. -/
def isPlainChar (c : Char) : Bool := c = '\t' || (0x20 ≤ c.toNat && c.toNat != 0x7F)

/-- White space within a line. -/
def isSpace (c : Char) : Bool := c = ' ' || c = '\t'

/-- The character of an escape with one letter. -/
def escaped? : Char → Option Char
  | 'b' => some '\x08'
  | 't' => some '\t'
  | 'n' => some '\n'
  | 'f' => some '\x0c'
  | 'r' => some '\r'
  | 'e' => some '\x1b'
  | '"' => some '"'
  | '\\' => some '\\'
  | _ => none

/-- The character whose number hexadecimal digits write. -/
def numbered? (digits : List Char) : Option Char := do
  let n ← Text.hexNumber? digits
  if n.isValidChar then some (Char.ofNat n) else none

/-- Put a character in front of a text. -/
def push? (c : Option Char) (rest : Option (List Char × List Char)) :
    Option (List Char × List Char) := do
  let c ← c
  let (cs, left) ← rest
  return (c :: cs, left)

/-- A text on one line with escapes, behind its opening quote. -/
def basicLine : List Char → Option (List Char × List Char)
  | [] => none
  | '"' :: rest => some ([], rest)
  | '\\' :: 'x' :: a :: b :: rest => push? (numbered? [a, b]) (basicLine rest)
  | '\\' :: 'u' :: a :: b :: c :: d :: rest => push? (numbered? [a, b, c, d]) (basicLine rest)
  | '\\' :: 'U' :: a :: b :: c :: d :: e :: f :: g :: h :: rest =>
    push? (numbered? [a, b, c, d, e, f, g, h]) (basicLine rest)
  | '\\' :: c :: rest => push? (escaped? c) (basicLine rest)
  | c :: rest => if isPlainChar c then push? (some c) (basicLine rest) else none

/-- A text on one line without escapes, behind its opening quote. -/
def literalLine : List Char → Option (List Char × List Char)
  | [] => none
  | '\'' :: rest => some ([], rest)
  | c :: rest => if isPlainChar c then push? (some c) (literalLine rest) else none

/-- Nothing but white space is left on the line. -/
def endsLine (cs : List Char) : Bool :=
  match cs.dropWhile isSpace with
  | '\n' :: _ => true
  | '\r' :: '\n' :: _ => true
  | _ => false

/-- A text over several lines with escapes, behind its opening quotes.  With `trim`
white space is swallowed.  Up to two quotes may stand before the closing three. -/
def basicLines (trim : Bool) : List Char → Option (List Char × List Char)
  | [] => none
  | '"' :: '"' :: '"' :: '"' :: '"' :: rest => some (['"', '"'], rest)
  | '"' :: '"' :: '"' :: '"' :: rest => some (['"'], rest)
  | '"' :: '"' :: '"' :: rest => some ([], rest)
  | '\\' :: 'x' :: a :: b :: rest => push? (numbered? [a, b]) (basicLines false rest)
  | '\\' :: 'u' :: a :: b :: c :: d :: rest =>
    push? (numbered? [a, b, c, d]) (basicLines false rest)
  | '\\' :: 'U' :: a :: b :: c :: d :: e :: f :: g :: h :: rest =>
    push? (numbered? [a, b, c, d, e, f, g, h]) (basicLines false rest)
  | '\\' :: c :: rest =>
    if endsLine (c :: rest) then
      if c = '\r' then
        match rest with
        | _ :: rest => basicLines true rest
        | [] => none
      else basicLines true rest
    else push? (escaped? c) (basicLines false rest)
  | '\r' :: '\n' :: rest =>
    if trim then basicLines true rest
    else push? (some '\r') (push? (some '\n') (basicLines false rest))
  | '\n' :: rest => if trim then basicLines true rest else push? (some '\n') (basicLines false rest)
  | c :: rest =>
    if trim && isSpace c then basicLines true rest
    else if isPlainChar c then push? (some c) (basicLines false rest)
    else none

/-- A text over several lines without escapes, behind its opening quotes. -/
def literalLines : List Char → Option (List Char × List Char)
  | [] => none
  | '\'' :: '\'' :: '\'' :: '\'' :: '\'' :: rest => some (['\'', '\''], rest)
  | '\'' :: '\'' :: '\'' :: '\'' :: rest => some (['\''], rest)
  | '\'' :: '\'' :: '\'' :: rest => some ([], rest)
  | '\r' :: '\n' :: rest => push? (some '\r') (push? (some '\n') (literalLines rest))
  | '\n' :: rest => push? (some '\n') (literalLines rest)
  | c :: rest => if isPlainChar c then push? (some c) (literalLines rest) else none

/-- Leave out a line break at the front. -/
def dropLineBreak : List Char → List Char
  | '\n' :: rest => rest
  | '\r' :: '\n' :: rest => rest
  | cs => cs

/-- A quoted text that ends on its line. -/
def lineText? : List Char → Option (List Char × List Char)
  | '"' :: rest => basicLine rest
  | '\'' :: rest => literalLine rest
  | _ => none

/-- A quoted text. -/
def text? : List Char → Option (List Char × List Char)
  | '"' :: '"' :: '"' :: rest => basicLines false (dropLineBreak rest)
  | '\'' :: '\'' :: '\'' :: rest => literalLines (dropLineBreak rest)
  | cs => lineText? cs

/-! ## Numbers and words -/

/-- The digits of a number, with single underscores between them. -/
def digits? (value? : Char → Option Nat) : List Char → Option (List Nat)
  | [] => none
  | [c] => (value? c).map ([·])
  | c :: '_' :: rest => do
    let d ← value? c
    let ds ← digits? value? rest
    return d :: ds
  | c :: rest => do
    let d ← value? c
    let ds ← digits? value? rest
    return d :: ds

/-- The value of a digit below `base`. -/
def digitBelow? (base : Nat) (c : Char) : Option Nat :=
  (Text.hexValue? c).filter (· < base)

/-- The number that digits write. -/
def ofDigits (base : Nat) (ds : List Nat) : Nat := ds.foldl (fun n d => n * base + d) 0

/-- A digit or an underscore. -/
def isDigitChar (c : Char) : Bool := c.isDigit || c = '_'

/-- The whole part of a decimal number: only zero itself begins with a zero. -/
def whole? (cs : List Char) : Option (List Nat) := do
  let ds ← digits? (digitBelow? 10) cs
  match ds with
  | 0 :: _ :: _ => none
  | ds => some ds

/-- An exponent with its sign. -/
def exponent? : List Char → Option Int
  | '+' :: cs => (digits? (digitBelow? 10) cs).map fun ds => ofDigits 10 ds
  | '-' :: cs => (digits? (digitBelow? 10) cs).map fun ds => -(ofDigits 10 ds : Int)
  | cs => (digits? (digitBelow? 10) cs).map fun ds => ofDigits 10 ds

/-- The double nearest to a decimal number, unless it is infinite.  Far outside of
the range of doubles nothing has to be computed. -/
def nearest? (ds : List Nat) (exponent : Int) : Option Float :=
  let m := ofDigits 10 ds
  let magnitude : Int := (Nat.toDigits 10 m).length + exponent
  if m = 0 then some 0.0
  else if 310 < magnitude then none
  else if magnitude < -400 then some 0.0
  else
    let x := if 0 ≤ exponent then Float.ofScientific m false exponent.toNat
      else Float.ofScientific m true (-exponent).toNat
    if x.isInf then none else some x

/-- A double: its digits, those behind the point counted, and an exponent. -/
def real? (whole fraction : List Nat) (exponent : Int) : Option Toml :=
  (nearest? (whole ++ fraction) (exponent - fraction.length)).map real

/-- What follows the digits behind the point: nothing or an exponent. -/
def afterFraction? (whole fraction : List Nat) : List Char → Option Toml
  | [] => real? whole fraction 0
  | c :: cs =>
    if c = 'e' ∨ c = 'E' then (exponent? cs).bind (real? whole fraction) else none

/-- A decimal number without a sign. -/
def decimal? (cs : List Char) : Option Toml := do
  let whole ← whole? (cs.takeWhile isDigitChar)
  match cs.dropWhile isDigitChar with
  | [] => some (integer (ofDigits 10 whole))
  | '.' :: rest =>
    let fraction ← digits? (digitBelow? 10) (rest.takeWhile isDigitChar)
    afterFraction? whole fraction (rest.dropWhile isDigitChar)
  | rest => afterFraction? whole [] rest

/-- A number or a constant with or without a sign. -/
def unsigned? (cs : List Char) : Option Toml :=
  if cs = ['i', 'n', 'f'] then some (real (1.0 / 0.0))
  else if cs = ['n', 'a', 'n'] then some (real (0.0 / 0.0))
  else decimal? cs

/-- The value with the other sign. -/
def negated : Toml → Toml
  | integer n => integer (-n)
  | real x => real (-x)
  | v => v

/-- A whole number in base `base`. -/
def based? (base : Nat) (cs : List Char) : Option Toml :=
  (digits? (digitBelow? base) cs).map fun ds => integer (ofDigits base ds)

/-- A value that is written without quotes and brackets. -/
def bare? : List Char → Option Toml
  | '0' :: 'x' :: cs => based? 16 cs
  | '0' :: 'o' :: cs => based? 8 cs
  | '0' :: 'b' :: cs => based? 2 cs
  | '+' :: cs => unsigned? cs
  | '-' :: cs => (unsigned? cs).map negated
  | cs =>
    if cs = ['t', 'r', 'u', 'e'] then some (truth true)
    else if cs = ['f', 'a', 'l', 's', 'e'] then some (truth false)
    else unsigned? cs

end Gatehouse.Toml
