import Gatehouse.Decimal.Shortest
import Gatehouse.Json.Quotation

/-!
# Numbers in JSON

A number without a fraction and an exponent is an integer as long as it fits in 64
bits, with a sign or without.  Every other number is a double.

The double is not always the nearest one.  It is computed from the first digits,
as many as fit in 64 bits, and one multiplication or division by a power of ten,
each of which rounds.  `Numeral.real` fixes this computation step by step, because
the result shows wherever the number is written again.
-/

namespace Gatehouse.Json

/-- A number. -/
inductive Number where
  | integer (n : Int)
  | real (x : Float)

/-- Where the reading of a number stops. -/
inductive NumeralEnd where
  /-- Behind the number. -/
  | complete
  /-- At the end of the document, where another digit has to stand. -/
  | cut
  /-- Before something that no number can hold. -/
  | malformed
  deriving DecidableEq, Repr

/-- A number as it is written. -/
structure Numeral where
  negative : Bool
  whole : List Nat
  fraction : Option (List Nat)
  /-- The exponent's digits, and whether it is negative. -/
  exponent : Option (Bool × List Nat)
  ending : NumeralEnd
  deriving DecidableEq, Repr

namespace Numeral

/-- The digits at the front. -/
def digitsOf (cs : List Char) : List Nat :=
  (cs.takeWhile Char.isDigit).map fun c => c.toNat - '0'.toNat

/-- What follows the digits at the front. -/
def afterDigits (cs : List Char) : List Char := cs.dropWhile Char.isDigit

/-- How a run of digits ends that may not be empty. -/
def digitsEnd (cs : List Char) : NumeralEnd :=
  match cs with
  | [] => .cut
  | c :: _ => if c.isDigit then .complete else .malformed

/-- How the whole part ends: as digits do, and a leading zero has to stand alone. -/
def wholeEnd (cs : List Char) : NumeralEnd :=
  match cs with
  | '0' :: c :: _ => if c.isDigit then .malformed else .complete
  | cs => digitsEnd cs

/-- Read the exponent, if there is one. -/
def lexExponent (negative : Bool) (whole : List Nat) (fraction : Option (List Nat))
    (cs : List Char) : Numeral × List Char :=
  match cs with
  | c :: rest =>
    if c = 'e' ∨ c = 'E' then
      let (down, body) :=
        match rest with
        | '+' :: body => (false, body)
        | '-' :: body => (true, body)
        | body => (false, body)
      (⟨negative, whole, fraction, some (down, digitsOf body), digitsEnd body⟩, afterDigits body)
    else (⟨negative, whole, fraction, none, .complete⟩, cs)
  | [] => (⟨negative, whole, fraction, none, .complete⟩, [])

/-- Read the fraction and the exponent, if there are any. -/
def lexFraction (negative : Bool) (whole : List Nat) (cs : List Char) : Numeral × List Char :=
  match cs with
  | '.' :: rest =>
    match digitsEnd rest with
    | .complete => lexExponent negative whole (some (digitsOf rest)) (afterDigits rest)
    | broken => (⟨negative, whole, some [], none, broken⟩, rest)
  | cs => lexExponent negative whole none cs

/-- Read a number behind its sign. -/
def lexUnsigned (negative : Bool) (cs : List Char) : Numeral × List Char :=
  match wholeEnd cs with
  | .complete => lexFraction negative (digitsOf cs) (afterDigits cs)
  | broken => (⟨negative, [], none, none, broken⟩, cs)

/-- Read a number and return what follows it. -/
def lex : List Char → Numeral × List Char
  | '-' :: rest => lexUnsigned true rest
  | cs => lexUnsigned false cs

/-! ## Values -/

/-- The number that a list of digits writes. -/
def ofDigits (ds : List Nat) : Nat := ds.foldl (fun n d => n * 10 + d) 0

/-- Append digits to a significand as long as it fits in 64 bits.  The second result
counts the digits that are left. -/
def gather (significand : Nat) : List Nat → Nat × Nat
  | [] => (significand, 0)
  | d :: ds =>
    if significand * 10 + d < Nat.pow 2 64 then gather (significand * 10 + d) ds
    else (significand, ds.length + 1)

/-- Ten to a power, as a double. -/
def powerOfTen (n : Nat) : Float := Float.ofScientific 1 false n

/-- The largest exponent of ten that a double can be multiplied with. -/
def maxPower : Int := 308

/-- Divide by ten to a power that may exceed the range of doubles. -/
def divide : Nat → Float → Nat → Float
  | 0, x, _ => x
  | fuel + 1, x, n =>
    if n ≤ maxPower.toNat then x / powerOfTen n
    else if x == 0.0 then x
    else divide fuel (x / powerOfTen maxPower.toNat) (n - maxPower.toNat)

/-- A significand times a power of ten, unless the product is infinite.  Four
divisions bring every significand of 64 bits down to zero. -/
def scale? (significand : Nat) (exponent : Int) : Option Float :=
  let x := (UInt64.ofNat significand).toFloat
  if exponent < 0 then some (divide 4 x (-exponent).toNat)
  else if exponent ≤ maxPower then
    let y := x * powerOfTen exponent.toNat
    if y.isInf then none else some y
  else if x == 0.0 then some x
  else none

/-- The largest exponent that is computed with. -/
def maxExponent : Nat := Nat.pow 2 31 - 1

/-- The absolute value as a double. -/
def real? (n : Numeral) : Option Float :=
  let (s, dropped) := gather 0 n.whole
  let fraction := n.fraction.getD []
  let (s, left) := gather s fraction
  let shift : Int := (dropped : Int) - ((fraction.length - left : Nat) : Int)
  match n.exponent with
  | none => scale? s shift
  | some (down, ds) =>
    let e := ofDigits ds
    if maxExponent < e then (if s ≠ 0 ∧ !down then none else some 0.0)
    else scale? s (if down then shift - e else shift + e)

/-- The double with the number's sign. -/
def signed (n : Numeral) (x : Float) : Float := if n.negative then -x else x

/-- The value, unless the number is broken or too large. -/
def value (n : Numeral) : Except Break Number :=
  match n.ending with
  | .cut => .error .truncated
  | .malformed => .error .malformed
  | .complete =>
    let m := ofDigits n.whole
    if n.fraction = none ∧ n.exponent = none ∧ !n.negative ∧ m < Nat.pow 2 64 then
      .ok (.integer m)
    else if n.fraction = none ∧ n.exponent = none ∧ n.negative ∧ m ≠ 0 ∧ m ≤ Nat.pow 2 63 then
      .ok (.integer (-m))
    else
      match n.real? with
      | none => .error .malformed
      | some x => .ok (.real (n.signed x))

end Numeral

/-! ## Writing -/

/-- The decimal digits of a number. -/
def decimalDigits (n : Nat) : List Char := Nat.toDigits 10 n

/-- Lay a decimal out as text.  The point stands behind digit `point`, and the
exponent is written as soon as the point would be far away from the digits. -/
def layOut (digits : List Char) (point : Int) : List Char :=
  let count : Int := digits.length
  if count ≤ point ∧ point ≤ 16 then
    digits ++ List.replicate (point - count).toNat '0' ++ ['.', '0']
  else if 0 < point ∧ point ≤ 16 then
    digits.take point.toNat ++ '.' :: digits.drop point.toNat
  else if -5 < point ∧ point ≤ 0 then
    ['0', '.'] ++ List.replicate (-point).toNat '0' ++ digits
  else
    let mantissa :=
      match digits with
      | d :: e :: rest => d :: '.' :: e :: rest
      | ds => ds
    mantissa ++ 'e' :: (toString (point - 1)).toList

/-- Remove the zeros at the end of a decimal's digits. -/
def trimmed : List Char → List Char
  | ds => (ds.reverse.dropWhile (· == '0')).reverse

/-- A finite double in the fewest digits that read back as it. -/
def realText (x : Float) : List Char :=
  let bits := x.toBits
  let sign := if Nat.pow 2 63 ≤ bits.toNat then ['-'] else []
  let size : UInt64 := UInt64.ofNat (bits.toNat % Nat.pow 2 63)
  if size = 0 then sign ++ ['0', '.', '0']
  else
    let d := Decimal.shortest size
    let digits := decimalDigits d.digits
    sign ++ layOut (trimmed digits) (digits.length + d.exponent)

namespace Number

/-- The spelling of a number. -/
def text : Number → List Char
  | integer n => (toString n).toList
  | real x => realText x

end Number

end Gatehouse.Json
