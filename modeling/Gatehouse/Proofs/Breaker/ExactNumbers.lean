import Gatehouse.Breaker.Config
import Mathlib.Data.Rat.Floor
import Mathlib.Data.Sign.Basic

/-!
# Exact numbers

Doubles round after every step.  Here is the arithmetic that they stand for: rationals, which do
not round, and beyond them the infinities and what is not a number.  A double has an exact number
as its value (`Exact.ofFloat`), so a computation with doubles can be compared with the same
computation on their values.

*One constructor for all that is no rational.*  A product with an infinity follows the rule of
signs, and it is not a number if a factor is zero or not a number.  With the sign zero for what is
not a number this is the product of signs, and nothing else has to be said.  Zero itself has no
sign here.

### What is load-bearing

Two doubles are compared by their exponents first and by their mantissas next.  That this compares
the values depends on mantissas having all their digits unless the exponent is the least
(`full_of_unpack`), which is a fact about the layout of a double and not about any operation on it.
-/

namespace Gatehouse

open Float.Model (UnpackedFloat)

/-- **A number that is not rounded.** -/
inductive Exact where
  | number (value : ℚ)
  /-- An infinity with its sign.  What is not a number has the sign zero. -/
  | beyond (sign : SignType)
  deriving DecidableEq

namespace Exact

/-- Above all numbers. -/
def infinity : Exact := beyond 1

/-- What is not a number. -/
def notANumber : Exact := beyond 0

/-! ## Products -/

instance : One Exact := ⟨number 1⟩

instance : Mul Exact where
  mul
    | number p, number q => number (p * q)
    | number p, beyond s => beyond (SignType.sign p * s)
    | beyond s, number q => beyond (s * SignType.sign q)
    | beyond s, beyond t => beyond (s * t)

theorem one_eq : (1 : Exact) = number 1 := rfl

@[simp] theorem number_mul_number (p q : ℚ) : number p * number q = number (p * q) := rfl

@[simp] theorem number_mul_beyond (p : ℚ) (s : SignType) :
    number p * beyond s = beyond (SignType.sign p * s) := rfl

@[simp] theorem beyond_mul_number (s : SignType) (q : ℚ) :
    beyond s * number q = beyond (s * SignType.sign q) := rfl

@[simp] theorem beyond_mul_beyond (s t : SignType) : beyond s * beyond t = beyond (s * t) := rfl

instance : Monoid Exact where
  mul_assoc x y z := by
    cases x <;> cases y <;> cases z <;>
      simp only [number_mul_number, number_mul_beyond, beyond_mul_number, beyond_mul_beyond,
        mul_assoc, sign_mul]
  one_mul x := by
    cases x with
    | number q => rw [one_eq, number_mul_number, one_mul]
    | beyond s => rw [one_eq, number_mul_beyond, sign_one, one_mul]
  mul_one x := by
    cases x with
    | number q => rw [one_eq, number_mul_number, mul_one]
    | beyond s => rw [one_eq, beyond_mul_number, sign_one, mul_one]

@[simp] theorem number_pow (q : ℚ) (n : ℕ) : number q ^ n = number (q ^ n) := by
  induction n with
  | zero => rw [pow_zero, pow_zero, one_eq]
  | succ n ih => rw [pow_succ, ih, number_mul_number, pow_succ]

theorem beyond_pow (s : SignType) {n : ℕ} (positive : 0 < n) :
    beyond s ^ n = beyond (s ^ n) := by
  induction n, positive using Nat.le_induction with
  | base => rw [pow_one, pow_one]
  | succ n _ ih => rw [pow_succ, ih, beyond_mul_beyond, ← pow_succ]

/-! ## The steps of a computation -/

/-- How a number compares with one.  What is not a number does not. -/
def compareOne : Exact → Option Ordering
  | number q => some (compare q 1)
  | beyond .neg => some .lt
  | beyond .zero => none
  | beyond .pos => some .gt

/-- **A factor that raises** what it is multiplied with. -/
inductive Raises : Exact → Prop where
  | number {q : ℚ} (above : 1 < q) : Raises (number q)
  | infinity : Raises infinity

instance : Arithmetic Exact where
  ofNat n := number n
  mul x y := x * y
  inverse
    | number q => if q = 0 then infinity else number q⁻¹
    | beyond s => if s = 0 then notANumber else number 0
  atMostOne x := x.compareOne.any (·.isLE)
  whole
    | number q => min ⌊q⌋₊ (2 ^ 64 - 1)
    | beyond s => if s = 1 then 2 ^ 64 - 1 else 0

/-! ## The values of doubles -/

/-- The value of a double that has been taken apart. -/
def ofUnpacked : UnpackedFloat → Exact
  | .notANumber => notANumber
  | .infinity .positive => infinity
  | .infinity .negative => beyond (-1)
  | .zero _ => number 0
  | .finite sign mantissa exponent _ => number (sign.apply mantissa * 2 ^ exponent)

theorem ofUnpacked_finite (sign : UnpackedFloat.Sign) (mantissa : ℕ) (exponent : ℤ)
    (positive : 0 < mantissa) : ofUnpacked (.finite sign mantissa exponent positive) =
      number (sign.apply mantissa * 2 ^ exponent) := rfl

/-- **The value of a double.** -/
def ofFloat (x : Float) : Exact := ofUnpacked x.toModel.unpack

/-- The digit that a double leaves out stands before the others. -/
theorem toNat_one_append {digits : ℕ} (v : BitVec digits) :
    (1#1 ++ v).toNat = 2 ^ digits + v.toNat := by
  rw [BitVec.toNat_append, ← Nat.shiftLeft_add_eq_or_of_lt v.isLt, Nat.shiftLeft_eq]
  simp

/-- A mantissa has 53 digits, or the exponent is the least. -/
theorem full_of_unpack {x : Float} {sign : UnpackedFloat.Sign} {mantissa : ℕ} {exponent : ℤ}
    {positive : 0 < mantissa} (h : x.toModel.unpack = .finite sign mantissa exponent positive) :
    mantissa < 2 ^ 53 ∧ (2 ^ 52 ≤ mantissa ∨ exponent = -1074) := by
  have bias : (Float.Model.Format.binary64.exponentBias : ℤ) = 1023 := rfl
  have digits : (Float.Model.Format.binary64.mantissaBitsWithoutImplicit : ℤ) = 52 := rfl
  unfold Float.Model.unpack UnpackedFloat.unpack at h
  dsimp only at h
  let written : BitVec 52 :=
    @UnpackedFloat.unpackMantissa .binary64 x.toModel.toBits.toBitVec
  have small : written.toNat < 2 ^ 52 := written.isLt
  have first : (1#1 ++ written).toNat = 2 ^ 52 + written.toNat := toNat_one_append written
  rcases ite_eq_iff.mp h with ⟨-, h⟩ | ⟨-, h⟩
  · rcases ite_eq_iff.mp h with ⟨-, h⟩ | ⟨-, h⟩ <;> cases h
  · rcases ite_eq_iff.mp h with ⟨least, h⟩ | ⟨-, h⟩
    · rcases dite_eq_iff.mp h with ⟨_, h⟩ | ⟨_, h⟩
      · cases h
      · cases h
        refine ⟨Nat.lt_of_lt_of_le small (by decide), Or.inr ?_⟩
        rw [least, bias, digits]
        rfl
    · cases h
      change (1#1 ++ written).toNat < 2 ^ 53 ∧ (2 ^ 52 ≤ (1#1 ++ written).toNat ∨ _)
      rw [first]
      exact ⟨by omega, Or.inl (by omega)⟩

/-- **Exponents first, mantissas next**: this compares a value with one. -/
theorem compare_value {mantissa : ℕ} {exponent : ℤ} (digits : mantissa < 2 ^ 53)
    (full : 2 ^ 52 ≤ mantissa ∨ exponent = -1074) :
    compare ((mantissa : ℚ) * 2 ^ exponent) 1 =
      (compare exponent (-52)).then (compare mantissa (2 ^ 52)) := by
  have positive : (0 : ℚ) < 2 ^ exponent := zpow_pos (by norm_num) exponent
  rcases lt_trichotomy exponent (-52) with small | rfl | large
  · have scale : (2 : ℚ) ^ exponent ≤ 2 ^ (-53 : ℤ) :=
      zpow_le_zpow_right₀ (by norm_num) (by omega)
    have below : (mantissa : ℚ) * 2 ^ exponent < 1 := by
      calc (mantissa : ℚ) * 2 ^ exponent < 2 ^ 53 * 2 ^ exponent :=
            mul_lt_mul_of_pos_right (by exact_mod_cast digits) positive
        _ ≤ 2 ^ 53 * 2 ^ (-53 : ℤ) := mul_le_mul_of_nonneg_left scale (by norm_num)
        _ = 1 := by norm_num
    rw [compare_lt_iff_lt.mpr below, compare_lt_iff_lt.mpr small]
    rfl
  · -- One has this exponent, too.
    have same : (1 : ℚ) = ((2 ^ 52 : ℕ) : ℚ) * 2 ^ (-52 : ℤ) := by norm_num
    rw [same, ← cmp_eq_compare, cmp_mul_pos_right positive, Nat.strictMono_cast.cmp_map_eq,
      cmp_eq_compare]
    rfl
  · -- The exponent is not the least, and so no digit is missing.
    have full' : 2 ^ 52 ≤ mantissa := full.resolve_right (by omega)
    have scale : (2 : ℚ) ^ (-51 : ℤ) ≤ 2 ^ exponent :=
      zpow_le_zpow_right₀ (by norm_num) (by omega)
    have above : 1 < (mantissa : ℚ) * 2 ^ exponent := by
      calc (1 : ℚ) < 2 ^ 52 * 2 ^ (-51 : ℤ) := by norm_num
        _ ≤ 2 ^ 52 * 2 ^ exponent := mul_le_mul_of_nonneg_left scale (by norm_num)
        _ ≤ mantissa * 2 ^ exponent :=
            mul_le_mul_of_nonneg_right (by exact_mod_cast full') positive.le
    rw [compare_gt_iff_gt.mpr above, compare_gt_iff_gt.mpr large]
    rfl

theorem unpack_one :
    (1.0 : Float).toModel.unpack = .finite .positive (2 ^ 52) (-52) (by decide) := rfl

/-- **A double compares with one like its value.** -/
theorem compare_unpack_one (x : Float) :
    x.toModel.unpack.compare (1.0 : Float).toModel.unpack = (ofFloat x).compareOne := by
  rw [unpack_one, ofFloat]
  cases unpacked : x.toModel.unpack with
  | notANumber => rfl
  | infinity sign => cases sign <;> rfl
  | zero sign => cases sign <;> rfl
  | finite sign mantissa exponent positive =>
    obtain ⟨digits, full⟩ := full_of_unpack unpacked
    cases sign with
    | positive =>
      rw [ofUnpacked_finite, compareOne]
      exact congrArg some (compare_value digits full).symm
    | negative =>
      have below : ((UnpackedFloat.Sign.negative.apply mantissa : ℤ) : ℚ) * 2 ^ exponent < 1 := by
        have size : (0 : ℚ) ≤ mantissa * 2 ^ exponent :=
          mul_nonneg mantissa.cast_nonneg (zpow_nonneg (by norm_num) exponent)
        rw [UnpackedFloat.Sign.apply, Int.cast_neg, Int.cast_natCast, neg_mul]
        linarith
      rw [ofUnpacked_finite, compareOne, compare_lt_iff_lt.mpr below]
      rfl

theorem le_one_iff {x : Float} : x ≤ 1.0 ↔ Arithmetic.atMostOne (ofFloat x) = true := by
  change decide ((UnpackedFloat.compare _ _).any (·.isLE) = true) = true ↔ _
  rw [decide_eq_true_iff, compare_unpack_one]
  rfl

theorem isNaN_iff {x : Float} : x.isNaN = true ↔ ofFloat x = notANumber := by
  change x.toModel.unpack.isNaN = true ↔ _
  unfold ofFloat
  cases x.toModel.unpack with
  | notANumber => exact iff_of_true rfl rfl
  | infinity sign => cases sign <;> decide
  | zero sign => exact iff_of_false (by rintro ⟨⟩) (by rintro ⟨⟩)
  | finite sign mantissa exponent positive => exact iff_of_false (by rintro ⟨⟩) (by rintro ⟨⟩)

/-- **A double that is not at most one** raises, or it is not a number. -/
theorem raises_of_not_le_one {x : Float} (above : ¬ x ≤ 1.0) (isNumber : ¬ x.isNaN = true) :
    Raises (ofFloat x) := by
  rw [le_one_iff] at above
  rw [isNaN_iff] at isNumber
  cases value : ofFloat x with
  | number q =>
    refine .number (lt_of_not_ge fun below => above ?_)
    rw [value]
    exact Ordering.isLE_iff_ne_gt.mpr (compare_le_iff_le.mpr below)
  | beyond sign =>
    rw [value] at above isNumber
    cases sign with
    | zero => exact absurd rfl isNumber
    | neg => exact absurd rfl above
    | pos => exact .infinity

end Exact

end Gatehouse
