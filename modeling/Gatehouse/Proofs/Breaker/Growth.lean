import Gatehouse.Proofs.Breaker.ExactNumbers
import Gatehouse.Settings.Validation

/-!
# How waits grow

While trials fail, a wait is the first one times a power of the factor.  Doubles round this, and
so here it is looked at without rounding: `BreakerConfig.exactCoolDownFor` takes the same steps
with the value of the factor.  With accepted settings a wait should never be less than the first
one, and never less than the one before.

Two things get past the check of the settings and break this (`BreakerConfig.Collapses`).

* The count of openings has 32 bits and becomes a signed exponent.  From `2 ^ 31` openings on the
  exponent is negative, and the factor makes the wait smaller.
* The check refuses factors below one.  What is not a number is not below one, and no wait that is
  computed with it is left.

The theorem is that nothing else breaks it.

### What is load-bearing

The wait is a monotone function of the signed exponent (`scaled_mono`), and the first wait is its
value at exponent zero (`scaled_zero`).  So all comparisons of waits are comparisons of exponents,
and only the step from a count to an exponent is not monotone.
-/

namespace Gatehouse

namespace Backoff

/-! ## Powers -/

/-- **Repeated squaring gives the power**, whatever is multiplied. -/
theorem powerFrom_eq {α : Type} [Monoid α] [Arithmetic α]
    (mul : ∀ x y : α, Arithmetic.mul x y = x * y) (product base : α) {exponent bits : ℕ}
    (fits : exponent < 2 ^ bits) :
    powerFrom product base exponent bits = product * base ^ exponent := by
  induction bits generalizing product base exponent with
  | zero =>
    obtain rfl : exponent = 0 := by simpa using fits
    rw [powerFrom_zero, pow_zero, mul_one]
  | succ bits ih =>
    have half : exponent / 2 < 2 ^ bits := by omega
    -- The last digit decides whether the base as it stands is a factor.
    have digit : (if exponent % 2 = 1 then Arithmetic.mul product base else product) =
        product * base ^ (exponent % 2) := by
      rcases Nat.mod_two_eq_zero_or_one exponent with even | odd
      · rw [even, pow_zero, mul_one, if_neg Nat.zero_ne_one]
      · rw [odd, pow_one, mul, if_pos rfl]
    rw [powerFrom_succ, digit, mul base base]
    by_cases last : exponent / 2 = 0
    · have same : exponent % 2 = exponent := by omega
      rw [if_pos last, same]
    · rw [if_neg last, ih _ _ half, ← pow_two, ← pow_mul, mul_assoc, ← pow_add, Nat.mod_add_div]

theorem signed_eq {n : ℕ} (word : n < 2 ^ 32) :
    signed n = if n < 2 ^ 31 then (n : ℤ) else n - 2 ^ 32 := by
  have size : Nat.pow 2 32 = 4294967296 := rfl
  unfold signed
  rw [Int.bmod_def, size]
  split_ifs <;> omega

theorem signed_ne_zero {n : ℕ} (counted : 0 < n) (word : n < 2 ^ 32) : signed n ≠ 0 := by
  rw [signed_eq word]
  split <;> omega

/-- An exponent that a power is taken with has 32 digits. -/
theorem natAbs_signed {n : ℕ} (word : n < 2 ^ 32) : (signed n).natAbs < 2 ^ 32 := by
  rw [signed_eq word]
  split <;> omega

open Exact

variable {factor : Exact} {z w : ℤ} {first : ℕ}

theorem power_exact (digits : z.natAbs < 2 ^ 32) :
    power factor z =
      if z < 0 then Arithmetic.inverse (factor ^ z.natAbs) else factor ^ z.natAbs := by
  have size : powerFrom (Arithmetic.ofNat 1) factor z.natAbs 32 = factor ^ z.natAbs := by
    rw [powerFrom_eq (fun _ _ => rfl) _ _ digits]
    exact one_mul _
  unfold power
  rw [size]

theorem power_number {q : ℚ} (positive : 0 < q) (digits : z.natAbs < 2 ^ 32) :
    power (number q) z = number (q ^ z) := by
  have size : q ^ z.natAbs ≠ 0 := (pow_pos positive _).ne'
  rw [power_exact digits, number_pow]
  split
  · rename_i negative
    have inverse : q ^ z = (q ^ z.natAbs)⁻¹ := by
      rw [← zpow_natCast, Int.ofNat_natAbs_of_nonpos negative.le, zpow_neg, inv_inv]
    rw [inverse]
    exact if_neg size
  · rename_i natural
    rw [← zpow_natCast, Int.natAbs_of_nonneg (not_lt.mp natural)]

theorem power_infinity (digits : z.natAbs < 2 ^ 32) :
    power infinity z = if z < 0 then number 0 else if z = 0 then 1 else infinity := by
  rw [power_exact digits]
  rcases eq_or_ne z 0 with rfl | other
  · rfl
  · have same : infinity ^ z.natAbs = infinity := by
      rw [infinity, beyond_pow _ (Int.natAbs_pos.mpr other), one_pow]
    rw [same, if_neg other]
    rfl

theorem power_notANumber (digits : z.natAbs < 2 ^ 32) (other : z ≠ 0) :
    power notANumber z = notANumber := by
  have same : notANumber ^ z.natAbs = notANumber := by
    rw [notANumber, beyond_pow _ (Int.natAbs_pos.mpr other)]
    exact congrArg beyond (zero_pow (Int.natAbs_ne_zero.mpr other))
  rw [power_exact digits, same]
  exact ite_self _

/-! ## What is bounded -/

/-- The first wait times a power of the factor, which is the wait before it is bounded. -/
def scaled {α : Type} [Arithmetic α] (first : ℕ) (factor : α) (z : ℤ) : ℕ :=
  Arithmetic.whole (Arithmetic.mul (Arithmetic.ofNat first) (power factor z))

theorem wait_eq {α : Type} [Arithmetic α] (first bound : ℕ) (factor : α) (opens : ℕ) :
    wait first bound factor opens =
      if opens = 0 ∨ Arithmetic.atMostOne factor = true then first
      else min (scaled first factor (signed opens)) (max bound first) := rfl

theorem scaled_number {q : ℚ} (positive : 0 < q) (digits : z.natAbs < 2 ^ 32) :
    scaled first (number q) z = min ⌊first * q ^ z⌋₊ (2 ^ 64 - 1) := by
  unfold scaled
  rw [power_number positive digits]
  rfl

/-- Nothing waited is not made longer by any factor. -/
theorem scaled_nothing (factor : Exact) (z : ℤ) : scaled 0 factor z = 0 := by
  unfold scaled
  cases power factor z with
  | number q =>
    change min ⌊((0 : ℕ) : ℚ) * q⌋₊ (2 ^ 64 - 1) = 0
    simp
  | beyond s =>
    change Arithmetic.whole (number ((0 : ℕ) : ℚ) * beyond s) = 0
    rw [number_mul_beyond, Nat.cast_zero, sign_zero, zero_mul]
    rfl

theorem scaled_zero (factor : Exact) (word : first < 2 ^ 64) : scaled first factor 0 = first := by
  have one : power factor 0 = number 1 := (power_exact (by decide)).trans (pow_zero factor)
  unfold scaled
  rw [one]
  change min ⌊(first : ℚ) * 1⌋₊ (2 ^ 64 - 1) = first
  rw [mul_one, Nat.floor_natCast]
  omega

theorem scaled_infinity (positive : 0 < first) (digits : z.natAbs < 2 ^ 32) :
    scaled first infinity z =
      if z < 0 then 0 else if z = 0 then min first (2 ^ 64 - 1) else 2 ^ 64 - 1 := by
  unfold scaled
  rw [power_infinity digits]
  split
  · change min ⌊(first : ℚ) * 0⌋₊ (2 ^ 64 - 1) = 0
    simp
  split
  · change min ⌊(first : ℚ) * 1⌋₊ (2 ^ 64 - 1) = _
    rw [mul_one, Nat.floor_natCast]
  · change Arithmetic.whole (number (first : ℚ) * infinity) = 2 ^ 64 - 1
    rw [infinity, number_mul_beyond, sign_pos (Nat.cast_pos.mpr positive), one_mul]
    rfl

theorem scaled_notANumber (digits : z.natAbs < 2 ^ 32) (other : z ≠ 0) :
    scaled first notANumber z = 0 := by
  unfold scaled
  rw [power_notANumber digits other]
  change Arithmetic.whole (number (first : ℚ) * beyond 0) = 0
  rw [number_mul_beyond, mul_zero]
  rfl

/-- **The larger the exponent, the longer the wait.** -/
theorem scaled_mono (raises : Raises factor) (positive : 0 < first) (le : z ≤ w)
    (digits : z.natAbs < 2 ^ 32) (digits' : w.natAbs < 2 ^ 32) :
    scaled first factor z ≤ scaled first factor w := by
  cases raises with
  | @number q above =>
    have base : 0 < q := one_pos.trans above
    have powers : q ^ z ≤ q ^ w := zpow_le_zpow_right₀ above.le le
    rw [scaled_number base digits, scaled_number base digits']
    exact min_le_min_right _
      (Nat.floor_mono (mul_le_mul_of_nonneg_left powers first.cast_nonneg))
  | infinity =>
    rw [scaled_infinity positive digits, scaled_infinity positive digits']
    split_ifs <;> omega

/-- A negative exponent makes the wait shorter than the first one. -/
theorem scaled_lt (raises : Raises factor) (positive : 0 < first) (negative : z < 0)
    (digits : z.natAbs < 2 ^ 32) : scaled first factor z < first := by
  cases raises with
  | @number q above =>
    have shrinks : q ^ z < 1 := zpow_lt_one_of_neg₀ above negative
    have less : first * q ^ z < first :=
      mul_lt_of_lt_one_right (Nat.cast_pos.mpr positive) shrinks
    rw [scaled_number (one_pos.trans above) digits]
    exact (min_le_left _ _).trans_lt ((Nat.floor_lt' positive.ne').mpr less)
  | infinity =>
    rw [scaled_infinity positive digits, if_pos negative]
    exact positive

end Backoff

namespace BreakerConfig

open Backoff Exact

/-- **The wait without rounding**, after so many openings in a row. -/
def exactCoolDownFor (config : BreakerConfig) (opens : ℕ) : ℕ :=
  Backoff.wait config.coolDown config.maxCoolDown (ofFloat config.multiplier) opens

/-- **The wait is less than the first one**: there is a wait to be made longer and a factor that
should do it, but the factor is not a number, or the count is a negative exponent. -/
def Collapses (config : BreakerConfig) (opens : ℕ) : Prop :=
  0 < config.coolDown ∧ 0 < opens ∧ ¬ config.multiplier ≤ 1.0 ∧
    (config.multiplier.isNaN = true ∨ 2 ^ 31 ≤ opens)

variable {config : BreakerConfig} {fewer opens : ℕ}

/-! ## The waits of a configuration -/

theorem exactCoolDownFor_eq (config : BreakerConfig) (opens : ℕ) :
    config.exactCoolDownFor opens =
      if opens = 0 ∨ config.multiplier ≤ 1.0 then config.coolDown
      else min (scaled config.coolDown (ofFloat config.multiplier) (signed opens))
        (max config.maxCoolDown config.coolDown) := by
  rw [exactCoolDownFor, wait_eq]
  exact if_congr (or_congr Iff.rfl le_one_iff.symm) rfl rfl

@[simp] theorem exactCoolDownFor_zero (config : BreakerConfig) :
    config.exactCoolDownFor 0 = config.coolDown := by
  rw [exactCoolDownFor_eq, if_pos (Or.inl rfl)]

theorem exactCoolDownFor_of_no_coolDown (nothing : config.coolDown = 0) :
    config.exactCoolDownFor opens = 0 := by
  rw [exactCoolDownFor_eq, nothing, scaled_nothing, Nat.zero_min, ite_self]

theorem exactCoolDownFor_of_le_one (flat : config.multiplier ≤ 1.0) :
    config.exactCoolDownFor opens = config.coolDown := by
  rw [exactCoolDownFor_eq, if_pos (Or.inr flat)]

/-- Unless the factor is at most one, the wait is a bounded function of the exponent, also before
anything is counted. -/
theorem exactCoolDownFor_of_not_le_one (small : config.coolDown < 2 ^ 64)
    (above : ¬ config.multiplier ≤ 1.0) :
    config.exactCoolDownFor opens =
      min (scaled config.coolDown (ofFloat config.multiplier) (signed opens))
        (max config.maxCoolDown config.coolDown) := by
  rcases eq_or_ne opens 0 with rfl | counted
  · have start : signed 0 = 0 := rfl
    rw [exactCoolDownFor_zero, start, scaled_zero _ small, min_eq_left (le_max_right _ _)]
  · rw [exactCoolDownFor_eq, if_neg (not_or.mpr ⟨counted, above⟩)]

/-- **More openings, no shorter wait**, unless the larger count is one at which waits collapse
and the smaller one is not. -/
theorem exactCoolDownFor_mono (small : config.coolDown < 2 ^ 64) (le : fewer ≤ opens)
    (word : opens < 2 ^ 32) (holds : config.Collapses opens → config.Collapses fewer) :
    config.exactCoolDownFor fewer ≤ config.exactCoolDownFor opens := by
  have word' : fewer < 2 ^ 32 := le.trans_lt word
  rcases Nat.eq_zero_or_pos config.coolDown with nothing | positive
  · rw [exactCoolDownFor_of_no_coolDown nothing]
    exact Nat.zero_le _
  by_cases above : config.multiplier ≤ 1.0
  · rw [exactCoolDownFor_of_le_one above, exactCoolDownFor_of_le_one above]
  rw [exactCoolDownFor_of_not_le_one small above, exactCoolDownFor_of_not_le_one small above]
  -- The bound is the same, and so only what is bounded has to be compared.
  apply min_le_min_right
  by_cases noNumber : config.multiplier.isNaN = true
  · rcases Nat.eq_zero_or_pos opens with rfl | counted
    · rw [Nat.le_zero.mp le]
    · obtain ⟨-, counted', -⟩ := holds ⟨positive, counted, above, Or.inl noNumber⟩
      rw [isNaN_iff.mp noNumber,
        scaled_notANumber (natAbs_signed word') (signed_ne_zero counted' word')]
      exact Nat.zero_le _
  · -- Both exponents are natural or both are negative, and then they are in the order of counts.
    have sameSide : 2 ^ 31 ≤ opens → 2 ^ 31 ≤ fewer := fun large =>
      (holds ⟨positive, by omega, above, Or.inr large⟩).2.2.2.resolve_left noNumber
    have exponents : signed fewer ≤ signed opens := by
      rw [signed_eq word', signed_eq word]
      split_ifs <;> omega
    exact scaled_mono (raises_of_not_le_one above noNumber) positive exponents
      (natAbs_signed word') (natAbs_signed word)

theorem Collapses.exactCoolDownFor_lt (collapses : config.Collapses opens)
    (small : config.coolDown < 2 ^ 64) (word : opens < 2 ^ 32) :
    config.exactCoolDownFor opens < config.coolDown := by
  obtain ⟨positive, counted, above, slip⟩ := collapses
  rw [exactCoolDownFor_of_not_le_one small above]
  refine (min_le_left _ _).trans_lt ?_
  by_cases noNumber : config.multiplier.isNaN = true
  · rw [isNaN_iff.mp noNumber, scaled_notANumber (natAbs_signed word) (signed_ne_zero counted word)]
    exact positive
  · have large : 2 ^ 31 ≤ opens := slip.resolve_left noNumber
    have negative : signed opens < 0 := by
      rw [signed_eq word, if_neg (not_lt.mpr large)]
      omega
    exact scaled_lt (raises_of_not_le_one above noNumber) positive negative (natAbs_signed word)

theorem coolDown_le_exactCoolDownFor_iff (small : config.coolDown < 2 ^ 64)
    (word : opens < 2 ^ 32) :
    config.coolDown ≤ config.exactCoolDownFor opens ↔ ¬ config.Collapses opens where
  mp le collapses := le.not_gt (collapses.exactCoolDownFor_lt small word)
  mpr holds :=
    calc config.coolDown = config.exactCoolDownFor 0 := (exactCoolDownFor_zero config).symm
      _ ≤ config.exactCoolDownFor opens :=
        exactCoolDownFor_mono small opens.zero_le word fun collapses => absurd collapses holds

theorem exactCoolDownFor_le_iff (small : config.coolDown < 2 ^ 64) (le : fewer ≤ opens)
    (word : opens < 2 ^ 32) :
    config.exactCoolDownFor fewer ≤ config.exactCoolDownFor opens ↔
      (config.Collapses opens → config.Collapses fewer) where
  mp waits collapses := by
    by_contra holds
    have first : config.coolDown ≤ config.exactCoolDownFor fewer :=
      (coolDown_le_exactCoolDownFor_iff small (le.trans_lt word)).mpr holds
    exact (first.trans waits).not_gt (collapses.exactCoolDownFor_lt small word)
  mpr holds := exactCoolDownFor_mono small le word holds

end BreakerConfig

/-- **Waits grow unless they collapse.**  No wait is longer than it may be.  It is at least the
first one, and at least the wait after fewer openings, except where waits collapse; and where they
do, they are less. -/
theorem waits_grow_unless_they_collapse (config : BreakerConfig) (fewer opens : ℕ)
    (small : config.coolDown < 2 ^ 64) (le : fewer ≤ opens) (word : opens < 2 ^ 32) :
    config.exactCoolDownFor opens ≤ max config.coolDown config.maxCoolDown ∧
      (config.coolDown ≤ config.exactCoolDownFor opens ↔ ¬ config.Collapses opens) ∧
      (config.exactCoolDownFor fewer ≤ config.exactCoolDownFor opens ↔
        (config.Collapses opens → config.Collapses fewer)) :=
  ⟨Backoff.wait_le _ _ _ _, BreakerConfig.coolDown_le_exactCoolDownFor_iff small word,
    BreakerConfig.exactCoolDownFor_le_iff small le word⟩

/-- Waits that double from one second on, up to five. -/
def BreakerConfig.doubling : BreakerConfig :=
  { standard with coolDown := 1000, multiplier := 2.0, maxCoolDown := 5000 }

theorem doubling_waits_grow :
    BreakerConfig.doubling.coolDown < 2 ^ 64 ∧ 3 ≤ 4 ∧ 4 < 2 ^ 32 ∧
      BreakerConfig.doubling.exactCoolDownFor 4 ≤ 5000 ∧
      1000 ≤ BreakerConfig.doubling.exactCoolDownFor 4 ∧
      BreakerConfig.doubling.exactCoolDownFor 3 ≤ BreakerConfig.doubling.exactCoolDownFor 4 := by
  obtain ⟨bounded, first, grow⟩ :=
    waits_grow_unless_they_collapse .doubling 3 4 (by decide) (by decide) (by decide)
  have holds : ¬ BreakerConfig.doubling.Collapses 4 := by
    rintro ⟨-, -, -, noNumber | large⟩
    · exact absurd noNumber (by decide +kernel)
    · omega
  exact ⟨by decide, by decide, by decide, bounded, first.mpr holds,
    grow.mpr fun collapses => absurd collapses holds⟩

/-- A wait of one second, with a factor that is not a number. -/
def BreakerConfig.withoutFactor : BreakerConfig :=
  { standard with coolDown := 1000, multiplier := 0.0 / 0.0, maxCoolDown := 1000 }

/-- **Waits collapse in accepted settings**, with doubles as well as without rounding.  The wait
that doubles has long reached its bound when the count becomes a negative exponent, and a factor
that is not a number leaves nothing of the first wait at once. -/
theorem accepted_waits_collapse :
    (BreakerConfig.doubling.fault? = none ∧
      BreakerConfig.doubling.exactCoolDownFor 3 = 5000 ∧
      BreakerConfig.doubling.coolDownFor 3 = 5000 ∧
      BreakerConfig.doubling.exactCoolDownFor (2 ^ 31) = 0 ∧
      BreakerConfig.doubling.coolDownFor (2 ^ 31) = 0) ∧
    BreakerConfig.withoutFactor.fault? = none ∧
      BreakerConfig.withoutFactor.exactCoolDownFor 1 = 0 ∧
      BreakerConfig.withoutFactor.coolDownFor 1 = 0 := by
  have factor : Exact.ofFloat BreakerConfig.doubling.multiplier = .number 2 :=
    congrArg Exact.number (show ((2 ^ 52 : ℕ) : ℚ) * 2 ^ (-51 : ℤ) = 2 by norm_num)
  have first : BreakerConfig.doubling.coolDown = 1000 := rfl
  have exponent : Backoff.signed (2 ^ 31) = -2 ^ 31 := by decide
  -- The power is too small to be written down, and so it is compared with one that is not.
  have tiny : (1000 : ℕ) * (2 : ℚ) ^ (-2 ^ 31 : ℤ) < 1 := by
    calc (1000 : ℕ) * (2 : ℚ) ^ (-2 ^ 31 : ℤ) ≤ (1000 : ℕ) * (2 : ℚ) ^ (-10 : ℤ) :=
          mul_le_mul_of_nonneg_left
            (zpow_le_zpow_right₀ one_le_two (by decide)) (Nat.cast_nonneg _)
      _ < 1 := by norm_num
  have shrunk : BreakerConfig.doubling.exactCoolDownFor (2 ^ 31) = 0 := by
    rw [BreakerConfig.exactCoolDownFor_of_not_le_one (by decide) (by decide +kernel), factor,
      exponent, Backoff.scaled_number two_pos (by decide), first, Nat.floor_eq_zero.mpr tiny,
      Nat.zero_min, Nat.zero_min]
  refine ⟨⟨rfl, ?_, ?_, shrunk, ?_⟩, rfl, ?_, ?_⟩
  all_goals decide +kernel

end Gatehouse
