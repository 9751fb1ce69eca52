import PubList.Proofs.Rounding

/-!
# Whole parts

The whole part of a number is the number without its fraction, that is, truncated toward zero. Here is
when it survives the rounding of the number (`KeepsWholePart`): where the number has few digits
(`keepsWholePart_of_digits`), where it is a binary number itself (`keepsWholePart_of_isBinary`), and
where it lies beyond the integers of 64 bits anyway (`keepsWholePart_of_large`).
-/

namespace PubList.Number

/-- A number truncated toward zero. -/
def wholePart (q : ℚ) : ℤ := if 0 ≤ q then ⌊q⌋ else ⌈q⌉

theorem wholePart_of_nonneg {q : ℚ} (h : 0 ≤ q) : wholePart q = ⌊q⌋ := if_pos h

theorem wholePart_neg (q : ℚ) : wholePart (-q) = -wholePart q := by
  rcases lt_trichotomy q 0 with h | rfl | h
  · rw [wholePart_of_nonneg (by linarith), wholePart, if_neg (not_le.2 h), Int.floor_neg]
  · simp [wholePart]
  · rw [wholePart_of_nonneg h.le, wholePart, if_neg (by linarith), Int.ceil_neg]

/-- An integer below a number is below its whole part. -/
theorem le_wholePart {q : ℚ} {n : ℤ} (hn : 0 ≤ n) (h : n ≤ q) : n ≤ wholePart q := by
  rw [wholePart_of_nonneg ((Int.cast_nonneg hn).trans h)]
  exact Int.le_floor.2 h

/-- The whole part is less than one away. -/
theorem abs_lt_abs_wholePart_add_one (q : ℚ) : |q| < |(wholePart q : ℚ)| + 1 := by
  have hnonneg {q : ℚ} (h : 0 ≤ q) : |q| < |(wholePart q : ℚ)| + 1 := by
    rw [wholePart_of_nonneg h, abs_of_nonneg h,
      abs_of_nonneg (by exact_mod_cast Int.floor_nonneg.2 h)]
    exact Int.lt_floor_add_one q
  rcases le_total 0 q with h | h
  · exact hnonneg h
  · have hneg := hnonneg (neg_nonneg.2 h)
    rwa [wholePart_neg, abs_neg, Int.cast_neg, abs_neg] at hneg

theorem isInt64_iff {n : ℤ} : isInt64 n = true ↔ -2 ^ 63 ≤ n ∧ n < 2 ^ 63 := by
  simp only [isInt64, Bool.and_eq_true, decide_eq_true_eq]
  unfold int64Min int64Max
  omega

/-! ## Binary numbers -/

namespace Magnitude

theorem value_nonneg (m : Magnitude) : 0 ≤ m.value := by
  unfold value
  positivity

theorem floor_eq (m : Magnitude) : (m.floor : ℤ) = ⌊m.value⌋ := by
  obtain ⟨a, b, hscale, -, hvalue⟩ := exists_scaled m.mantissa one_pos (-m.exponent)
  have hratio : m.value = a / b := by
    have hpos : (2 : ℚ) ^ m.exponent ≠ 0 := by positivity
    rw [Nat.cast_one, div_one, zpow_neg] at hvalue
    rw [value, hvalue, inv_mul_cancel_right₀ hpos]
  rw [floor, toRatio, hscale, hratio, Rat.floor_natCast_div_natCast]
  exact Int.natCast_div a b

end Magnitude

/-- The number that a binary number with a sign is. -/
def Binary64.value (x : Binary64) : ℚ := if x.negative then -x.magnitude.value else x.magnitude.value

theorem Binary64.truncate_eq (x : Binary64) : x.truncate = wholePart x.value := by
  unfold truncate value
  split
  · rw [wholePart_neg, wholePart_of_nonneg x.magnitude.value_nonneg, x.magnitude.floor_eq]
  · rw [wholePart_of_nonneg x.magnitude.value_nonneg, x.magnitude.floor_eq]

/-- The number that a decimal number is. -/
def Decimal.value (d : Decimal) : ℚ :=
  if d.negative then -(d.digits * 10 ^ d.exponent) else d.digits * 10 ^ d.exponent

/-- A decimal number with a sign is rounded to the nearest number, and refused if that reaches the limit
on either side. -/
theorem Binary64.ofDecimal?_rounds (d : Decimal) :
    ∃ x, Rounded d.value x ∧
      (ofDecimal? d).map truncate = if |x| < 2 ^ 1024 then some (wholePart x) else none := by
  obtain ⟨m, hrounded, hm⟩ := Magnitude.ofDecimal?_rounds d.digits d.exponent
  have habs : |(⟨d.negative, m⟩ : Binary64).value| = m.value := by
    unfold value
    split
    · rw [abs_neg, abs_of_nonneg m.value_nonneg]
    · rw [abs_of_nonneg m.value_nonneg]
  refine ⟨(⟨d.negative, m⟩ : Binary64).value, ?_, ?_⟩
  · unfold value Decimal.value
    split
    · exact hrounded.neg
    · exact hrounded
  · rw [ofDecimal?, hm, habs, ← truncate_eq]
    split <;> rfl

/-! ## Where rounding keeps the whole part -/

/-- Rounding does not change the whole part, as far as it can be told with 64 bits. -/
def KeepsWholePart (q : ℚ) : Prop :=
  ∀ x, Rounded q x → clampInt64 (wholePart x) = clampInt64 (wholePart q)

theorem keepsWholePart_of_isBinary {q : ℚ} (h : IsBinary q) : KeepsWholePart q := by
  intro x hx
  rw [hx.unique (.self h)]

theorem keepsWholePart_of_large {q : ℚ} (h : 2 ^ 63 ≤ |q|) : KeepsWholePart q := by
  intro x hx
  have hbinary : IsBinary (2 ^ 63) := ⟨1, 63, by decide, by decide, by norm_num⟩
  have hmax {y : ℚ} (hy : 2 ^ 63 ≤ y) : clampInt64 (wholePart y) = int64Max := by
    have hle : (2 ^ 63 : ℤ) ≤ wholePart y := le_wholePart (by norm_num) (by exact_mod_cast hy)
    unfold clampInt64 int64Min int64Max
    omega
  have hmin {y : ℚ} (hy : 2 ^ 63 ≤ -y) : clampInt64 (wholePart y) = int64Min := by
    have hle : (2 ^ 63 : ℤ) ≤ wholePart (-y) := le_wholePart (by norm_num) (by exact_mod_cast hy)
    rw [wholePart_neg] at hle
    unfold clampInt64 int64Min int64Max
    omega
  rcases le_abs.1 h with hq | hq
  · rw [hmax hq, hmax (hx.le_of_le hbinary hq)]
  · rw [hmin hq, hmin (hx.neg.le_of_le hbinary hq)]

/-- Up to `10 ^ 15` there is a power of two above a power of ten, and not twice as far. -/
theorem exists_two_pow : ∀ k ≤ 15, ∃ j ≤ 50, 10 ^ k ≤ 2 ^ j ∧ 2 ^ j ≤ 2 * 10 ^ k := by
  decide

/-- The integers around a decimal number, in units of its last digit. -/
theorem floor_bounds (n k : ℕ) :
    0 ≤ ⌊(n / 10 ^ k : ℚ)⌋ ∧ ⌊(n / 10 ^ k : ℚ)⌋ * 10 ^ k ≤ n ∧
      (n : ℤ) + 1 ≤ (⌊(n / 10 ^ k : ℚ)⌋ + 1) * 10 ^ k := by
  have hten : (0 : ℚ) < 10 ^ k := by positivity
  have hlow := (le_div_iff₀ hten).1 (Int.floor_le (n / 10 ^ k : ℚ))
  have hhigh := (div_lt_iff₀ hten).1 (Int.lt_floor_add_one (n / 10 ^ k : ℚ))
  exact ⟨Int.floor_nonneg.2 (by positivity), by exact_mod_cast hlow, by exact_mod_cast hhigh⟩

/-- The next integer above a number of few digits is not the nearest binary number: one is between. -/
theorem exists_isBinary_nearer {n k : ℕ} (hn : n < 10 ^ 15) (hk : k ≤ 15) :
    ∃ y, IsBinary y ∧ |(n / 10 ^ k : ℚ) - y| < ⌊(n / 10 ^ k : ℚ)⌋ + 1 - n / 10 ^ k := by
  obtain ⟨hnonneg, hbelow, habove⟩ := floor_bounds n k
  obtain ⟨j, hj, hlow, hhigh⟩ := exists_two_pow k hk
  have hten : (0 : ℚ) < 10 ^ k := by positivity
  -- The unit of the last digit is not smaller than `2 ^ -j`, and the next integer is one unit away.
  have hgap : ((2 : ℚ) ^ j)⁻¹ ≤ ⌊(n / 10 ^ k : ℚ)⌋ + 1 - n / 10 ^ k := by
    have hunit : (n : ℚ) + 1 ≤ (⌊(n / 10 ^ k : ℚ)⌋ + 1) * 10 ^ k := by exact_mod_cast habove
    calc ((2 : ℚ) ^ j)⁻¹ ≤ (10 ^ k)⁻¹ := by
          gcongr
          exact_mod_cast hlow
      _ = (n + 1) / 10 ^ k - n / 10 ^ k := by field_simp; ring
      _ ≤ ⌊(n / 10 ^ k : ℚ)⌋ + 1 - n / 10 ^ k := by
          gcongr
          exact (div_le_iff₀ hten).2 hunit
  generalize ⌊(n / 10 ^ k : ℚ)⌋ = floor at *
  have hdigits : (floor + 1) * 2 ^ j ≤ 4 * 10 ^ 15 := by
    have hkpow : (10 : ℤ) ^ k ≤ 10 ^ 15 := pow_le_pow_right₀ (by norm_num) hk
    have hnint : (n : ℤ) < 10 ^ 15 := by exact_mod_cast hn
    calc (floor + 1) * 2 ^ j ≤ (floor + 1) * (2 * 10 ^ k) := by
          gcongr
          exact_mod_cast hhigh
      _ = 2 * (floor * 10 ^ k) + 2 * 10 ^ k := by ring
      _ ≤ 4 * 10 ^ 15 := by linarith
  have hpositive : 1 ≤ (floor + 1) * 2 ^ j := one_le_mul_of_one_le_of_one_le (by omega)
    (one_le_pow₀ (by norm_num))
  refine ⟨floor + 1 - (2 ^ j)⁻¹, ⟨(floor + 1) * 2 ^ j - 1, -j, ?_, by omega, ?_⟩, ?_⟩
  · rw [abs_of_nonneg (by linarith)]
    linarith
  · rw [zpow_neg, zpow_natCast]
    push_cast
    field_simp
  · have hpos : (0 : ℚ) < (2 ^ j)⁻¹ := by positivity
    rw [abs_lt]
    constructor <;> linarith

/-- A number of few digits is not rounded up to the next integer. -/
theorem floor_rounded {n k : ℕ} (hn : n < 10 ^ 15) (hk : k ≤ 15) {x : ℚ}
    (hx : Rounded (n / 10 ^ k) x) : ⌊x⌋ = ⌊(n / 10 ^ k : ℚ)⌋ := by
  obtain ⟨y, hy, hnearer⟩ := exists_isBinary_nearer hn hk
  obtain ⟨hnonneg, hbelow, -⟩ := floor_bounds n k
  have hfloor := Int.floor_le (n / 10 ^ k : ℚ)
  have hnext := Int.lt_floor_add_one (n / 10 ^ k : ℚ)
  generalize (n / 10 ^ k : ℚ) = q at *
  have hsmall : ⌊q⌋ < 10 ^ 15 := by
    have hone : ⌊q⌋ ≤ ⌊q⌋ * 10 ^ k := le_mul_of_one_le_right hnonneg (one_le_pow₀ (by norm_num))
    have hnint : (n : ℤ) < 10 ^ 15 := by exact_mod_cast hn
    linarith
  have hlow : ⌊q⌋ ≤ x :=
    hx.le_of_le (isBinary_intCast (by rw [abs_of_nonneg hnonneg]; linarith)) hfloor
  have hhigh : x ≤ (⌊q⌋ + 1 : ℤ) := by
    refine hx.ge_of_ge (isBinary_intCast ?_) (by push_cast; exact hnext.le)
    rw [abs_of_nonneg (by omega)]
    linarith
  rw [Int.cast_add, Int.cast_one] at hhigh
  refine Int.floor_eq_iff.2 ⟨hlow, lt_of_le_of_ne hhigh fun hxe => ?_⟩
  have hnear := hx.nearest y hy
  rw [hxe, abs_of_nonpos (by linarith)] at hnear
  linarith

/-- A number with up to 15 digits. -/
theorem keepsWholePart_of_digits {n k : ℕ} (hn : n < 10 ^ 15) (hk : k ≤ 15) {q : ℚ}
    (hq : |q| = n / 10 ^ k) : KeepsWholePart q := by
  intro x hx
  have hfloor {q x : ℚ} (h : Rounded q x) (hq : q = n / 10 ^ k) : wholePart x = wholePart q := by
    have hnonneg : 0 ≤ q := by rw [hq]; positivity
    have hzero : IsBinary 0 := by simpa using isBinary_intCast (n := 0) (by norm_num)
    rw [wholePart_of_nonneg hnonneg, wholePart_of_nonneg (h.le_of_le hzero hnonneg)]
    subst hq
    exact floor_rounded hn hk h
  rcases abs_choice q with habs | habs <;> rw [habs] at hq
  · rw [hfloor hx hq]
  · have hneg := hfloor hx.neg hq
    rw [wholePart_neg, wholePart_neg, neg_inj] at hneg
    rw [hneg]

end PubList.Number
