/-!
# Breaker settings

How patient a circuit breaker is: how many failures it takes in a row, how long it
waits before it tries again, how the wait grows while the trials keep failing, and
which kinds of failures it counts at all.

Every time that a trial fails, the wait before the next one grows by a factor, up to
a bound.  The wait after `n` openings is the first wait times the `n`th power of the
factor, cut down to whole milliseconds.

The computation is written once, over an `Arithmetic`, because it is looked at in two
ways: it runs on doubles, where every step rounds, and it is compared with the same
steps on exact numbers.  The power is taken by repeated squaring, so that the order
of the roundings is fixed.  The number of openings counts as a signed integer of 32
bits there, and a negative one makes the power a fraction.
-/

namespace Gatehouse

/-- The settings of a circuit breaker.  Times are in milliseconds. -/
structure BreakerConfig where
  /-- A breaker that is not enabled lets every call through. -/
  enabled : Bool
  /-- So many failures in a row open the circuit. -/
  failureThreshold : Nat
  /-- The first wait. -/
  coolDown : Nat
  /-- The factor by which a wait grows. -/
  multiplier : Float
  /-- No wait grows beyond this. -/
  maxCoolDown : Nat
  /-- The kinds of failures that count. -/
  tracked : List String

namespace BreakerConfig

/-- The settings where none are given. -/
def standard : BreakerConfig where
  enabled := true
  failureThreshold := 3
  coolDown := 30000
  multiplier := 1.0
  maxCoolDown := 300000
  tracked := ["connection", "timeout"]

instance : Inhabited BreakerConfig := ⟨standard⟩

/-- Failures of this kind count. -/
def tracks (config : BreakerConfig) (kind : String) : Bool := config.tracked.contains kind

end BreakerConfig

/-! ## How long to wait -/

/-- The numbers that waits are computed with. -/
class Arithmetic (α : Type) where
  ofNat : Nat → α
  mul : α → α → α
  /-- One over a number. -/
  inverse : α → α
  /-- The factor does not let a wait grow. -/
  atMostOne : α → Bool
  /-- The whole part, at least zero and below `2 ^ 64`. -/
  whole : α → Nat

instance : Arithmetic Float where
  ofNat n := (UInt64.ofNat n).toFloat
  mul := (· * ·)
  inverse x := 1.0 / x
  atMostOne x := x <= 1.0
  whole x := x.toUInt64.toNat

namespace Backoff

variable {α : Type} [Arithmetic α]

/-- A number that is not negative, taken as a signed integer of 32 bits. -/
def signed (n : Nat) : Int := Int.bmod n (Nat.pow 2 32)

/-- Multiply `product` by a power, of which at most `bits` binary digits are left. -/
def powerFrom (product base : α) (exponent : Nat) : Nat → α
  | 0 => product
  | bits + 1 =>
    let next := if exponent % 2 = 1 then Arithmetic.mul product base else product
    -- The base is squared only where the square is used.
    if exponent / 2 = 0 then next
    else powerFrom next (Arithmetic.mul base base) (exponent / 2) bits

@[simp] theorem powerFrom_zero (product base : α) (exponent : Nat) :
    powerFrom product base exponent 0 = product := rfl

theorem powerFrom_succ (product base : α) (exponent bits : Nat) :
    powerFrom product base exponent (bits + 1) =
      if exponent / 2 = 0 then
        if exponent % 2 = 1 then Arithmetic.mul product base else product
      else
        powerFrom (if exponent % 2 = 1 then Arithmetic.mul product base else product)
          (Arithmetic.mul base base) (exponent / 2) bits := rfl

/-- A power with an exponent of 32 bits. -/
def power (base : α) (exponent : Int) : α :=
  let size := powerFrom (Arithmetic.ofNat 1) base exponent.natAbs 32
  if exponent < 0 then Arithmetic.inverse size else size

/-- The wait after so many openings. -/
def wait (first bound : Nat) (factor : α) (opens : Nat) : Nat :=
  if opens = 0 ∨ Arithmetic.atMostOne factor = true then first
  else
    min (Arithmetic.whole (Arithmetic.mul (Arithmetic.ofNat first) (power factor (signed opens))))
      (max bound first)

/-- No wait is longer than it may be. -/
theorem wait_le (first bound : Nat) (factor : α) (opens : Nat) :
    wait first bound factor opens ≤ max first bound := by
  unfold wait
  split
  · exact Nat.le_max_left _ _
  · exact Nat.le_trans (Nat.min_le_right _ _) (Nat.le_of_eq (Nat.max_comm _ _))

end Backoff

/-- The wait in milliseconds after so many openings in a row. -/
def BreakerConfig.coolDownFor (config : BreakerConfig) (opens : Nat) : Nat :=
  Backoff.wait config.coolDown config.maxCoolDown config.multiplier opens

/-- A breaker that has not opened waits as long as it is told to. -/
theorem BreakerConfig.coolDownFor_zero (config : BreakerConfig) :
    config.coolDownFor 0 = config.coolDown := by
  simp [coolDownFor, Backoff.wait]

end Gatehouse
