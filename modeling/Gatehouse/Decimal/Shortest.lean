/-!
# The shortest decimal of a double

A finite double is a rational number, and many decimals read back as it: all
those that lie in the interval of reals that round to it.  Among them this module
finds the one with the fewest digits, and of several with that few the nearest to
the double.

The search is exact integer arithmetic on the decoded bits.  For one digit, two
digits and so on it looks at the two decimals of that many digits around the
value; the first grid on which one of them lies in the interval wins.  Seventeen
digits always suffice for a double.

How such a decimal is laid out as text, with or without an exponent, is not a
question of this module.
-/

namespace Gatehouse.Decimal

/-- A positive rational with the interval of the reals that round to it, all three
over one denominator. -/
structure Rounding where
  value : Nat
  lower : Nat
  upper : Nat
  denominator : Nat
  /-- The end points of the interval belong to it. -/
  closed : Bool

/-- A decimal number: `digits * 10 ^ exponent`. -/
structure Scaled where
  digits : Nat
  exponent : Int
  deriving DecidableEq, Repr

/-- The value of a positive finite double with the reals that round to it.  Below a
power of two the neighbour is only half as far away. -/
def Rounding.ofBits (bits : UInt64) : Rounding :=
  let biased : Nat := bits.toNat / Nat.pow 2 52 % 2048
  let fraction := bits.toNat % Nat.pow 2 52
  let mantissa := if biased = 0 then fraction else fraction + Nat.pow 2 52
  let exponent : Int := (max biased 1 : Nat) - (1077 : Int)
  let below := if fraction = 0 ∧ 1 < biased then 1 else 2
  let scale := Nat.pow 2 exponent.toNat
  { value := 4 * mantissa * scale
    lower := (4 * mantissa - below) * scale
    upper := (4 * mantissa + 2) * scale
    denominator := Nat.pow 2 (-exponent).toNat
    closed := mantissa % 2 = 0 }

namespace Rounding

/-- The decimal lies in the interval. -/
def holds (r : Rounding) (d : Scaled) : Bool :=
  let number := d.digits * Nat.pow 10 d.exponent.toNat * r.denominator
  let scale := Nat.pow 10 (-d.exponent).toNat
  if r.closed then r.lower * scale ≤ number && number ≤ r.upper * scale
  else r.lower * scale < number && number < r.upper * scale

/-- The largest multiple of `10 ^ exponent` that is not above the value. -/
def floorAt (r : Rounding) (exponent : Int) : Nat :=
  r.value * Nat.pow 10 (-exponent).toNat / (r.denominator * Nat.pow 10 exponent.toNat)

/-- Twice the remainder of the value behind `floorAt`, against the grid's step:
whether the next multiple is nearer. -/
def upperIsNearer (r : Rounding) (exponent : Int) (floor : Nat) : Bool :=
  let step := r.denominator * Nat.pow 10 exponent.toNat
  let rest := r.value * Nat.pow 10 (-exponent).toNat - floor * step
  step < 2 * rest || (step == 2 * rest && floor % 2 == 1)

/-- The best decimal that is a multiple of `10 ^ exponent`, if one rounds to the
value. -/
def onGrid? (r : Rounding) (exponent : Int) : Option Scaled :=
  let floor := r.floorAt exponent
  let below : Scaled := ⟨floor, exponent⟩
  let above : Scaled := ⟨floor + 1, exponent⟩
  let belowHolds := floor != 0 && r.holds below
  if r.holds above then
    if belowHolds && !r.upperIsNearer exponent floor then some below else some above
  else if belowHolds then some below
  else none

/-- The exponent of the value's first digit, counted from above. -/
def leadingExponent (r : Rounding) (candidates : List Int) : Int :=
  (candidates.find? fun e => r.floorAt e != 0).getD 0

end Rounding

/-- Exponents that the first digit of a double can have, the largest first. -/
def exponentRange : List Int := (List.range 640).map fun (i : Nat) => (310 : Int) - i

/-- Try one digit, then two, and so on. -/
def searchGrids (r : Rounding) (leading : Int) : Nat → Int → Scaled
  | 0, step => ⟨r.floorAt (leading - step), leading - step⟩
  | fuel + 1, step =>
    match r.onGrid? (leading - step) with
    | some d => d
    | none => searchGrids r leading fuel (step + 1)

/-- The shortest decimal that reads back as a positive finite double. -/
def shortest (bits : UInt64) : Scaled :=
  let r := Rounding.ofBits bits
  searchGrids r (r.leadingExponent exponentRange) 17 0

end Gatehouse.Decimal
