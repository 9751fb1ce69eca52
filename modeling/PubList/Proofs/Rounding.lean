import Mathlib.Algebra.Order.Field.Power
import Mathlib.Algebra.Order.Floor.Ring
import Mathlib.Data.Rat.Floor
import Mathlib.Tactic.Linarith
import Mathlib.Tactic.NormNum
import Mathlib.Tactic.Positivity
import Mathlib.Tactic.Ring
import PubList.Number.Binary64

/-!
# Rounding to binary numbers

What the arithmetic of natural numbers in `Magnitude.ofRatio?` and `Magnitude.ofDecimal?` computes is
said here without it: the binary number nearest to the ratio, of two nearest ones the even one
(`Rounded`). There is one such number for each ratio (`Rounded.unique`).

The multiples of a power of two are a grid, and the nearest of them is the nearest binary number if the
grid is as fine as the 53 digits allow (`rounded_of_nearest_multiple`). A result is refused exactly
if it reaches `2 ^ 1024`.
-/

namespace PubList.Number

/-- A binary number of 53 digits, none of them below the place of `2 ^ -1074`. There is no limit above. -/
def IsBinary (x : ℚ) : Prop := ∃ m e : ℤ, |m| < 2 ^ 53 ∧ -1074 ≤ e ∧ x = m * 2 ^ e

/-- `x` is the binary number nearest to `q`. If another one is as near, then `x` is an even multiple of
their distance. -/
structure Rounded (q x : ℚ) : Prop where
  isBinary : IsBinary x
  nearest : ∀ y, IsBinary y → |q - x| ≤ |q - y|
  even : ∀ y, IsBinary y → y ≠ x → |q - x| = |q - y| → ∃ k : ℤ, x = 2 * k * |x - y|

theorem IsBinary.neg {x : ℚ} (h : IsBinary x) : IsBinary (-x) := by
  obtain ⟨m, e, hm, he, rfl⟩ := h
  exact ⟨-m, e, by rwa [abs_neg], he, by push_cast; ring⟩

/-- A multiple of a power of two, up to the first number of 54 digits. -/
theorem isBinary_mul_zpow {n e : ℤ} (hn : |n| ≤ 2 ^ 53) (he : -1074 ≤ e) : IsBinary (n * 2 ^ e) := by
  rcases hn.lt_or_eq with hn | hn
  · exact ⟨n, e, hn, he, rfl⟩
  · have hpower : IsBinary (2 ^ 53 * 2 ^ e) := by
      refine ⟨1, e + 53, by decide, by omega, ?_⟩
      rw [zpow_add₀ two_ne_zero, zpow_ofNat]
      push_cast
      ring
    rcases (abs_eq (by positivity)).1 hn with rfl | rfl
    · exact_mod_cast hpower
    · have hneg := hpower.neg
      rw [← neg_mul] at hneg
      exact_mod_cast hneg

/-- An integer of up to 53 digits. -/
theorem isBinary_intCast {n : ℤ} (h : |n| ≤ 2 ^ 53) : IsBinary n := by
  simpa using isBinary_mul_zpow h (by decide : -1074 ≤ (0 : ℤ))

namespace Rounded

variable {q x y : ℚ}

/-- Rounding has one result. -/
theorem unique (hx : Rounded q x) (hy : Rounded q y) : x = y := by
  by_contra hne
  have hdist : |q - x| = |q - y| :=
    le_antisymm (hx.nearest y hy.isBinary) (hy.nearest x hx.isBinary)
  obtain ⟨k, hk⟩ := hx.even y hy.isBinary (Ne.symm hne) hdist
  obtain ⟨l, hl⟩ := hy.even x hx.isBinary hne hdist.symm
  -- Two even multiples of their distance would differ by an even multiple of it.
  have hpos : 0 < |x - y| := abs_pos.2 (sub_ne_zero.2 hne)
  have hdiff : x - y = (2 * (k - l) : ℤ) * |x - y| := by
    rw [abs_sub_comm y x] at hl
    push_cast
    linarith
  have hfactor : |((2 * (k - l) : ℤ) : ℚ)| = 1 := by
    have habs : |((2 * (k - l) : ℤ) : ℚ)| * |x - y| = 1 * |x - y| := by
      rw [one_mul, ← abs_abs (x - y), ← abs_mul, abs_abs, ← hdiff]
    exact mul_right_cancel₀ hpos.ne' habs
  have hone : |2 * (k - l)| = 1 := by exact_mod_cast hfactor
  rcases (abs_eq zero_le_one).1 hone with h | h <;> omega

theorem neg (h : Rounded q x) : Rounded (-q) (-x) := by
  have hdist (y : ℚ) : |-q - -y| = |q - y| := by
    rw [neg_sub_neg, abs_sub_comm]
  refine ⟨h.isBinary.neg, fun y hy => ?_, fun y hy hne heq => ?_⟩
  · have hle := h.nearest (-y) hy.neg
    rwa [← hdist x, ← hdist (-y), neg_neg] at hle
  · have hne' : -y ≠ x := fun hyx => hne (by rw [← hyx, neg_neg])
    have heq' : |q - x| = |q - -y| := by
      rw [← hdist x, ← hdist (-y), neg_neg, heq]
    obtain ⟨k, hk⟩ := h.even (-y) hy.neg hne' heq'
    refine ⟨-k, ?_⟩
    have hgap : |-x - y| = |x - -y| := by
      rw [← abs_neg]
      congr 1
      ring
    rw [hgap]
    push_cast
    linarith

/-- A binary number is not rounded. -/
theorem self (h : IsBinary x) : Rounded x x := by
  refine ⟨h, fun y _ => ?_, fun y _ hne heq => ?_⟩
  · rw [sub_self, abs_zero]
    exact abs_nonneg _
  · rw [sub_self, abs_zero] at heq
    exact absurd (sub_eq_zero.1 (abs_eq_zero.1 heq.symm)).symm hne

/-- Rounding does not pass over a binary number below. -/
theorem le_of_le (h : Rounded q x) (hy : IsBinary y) (hle : y ≤ q) : y ≤ x := by
  have hnear := h.nearest y hy
  rw [abs_of_nonneg (sub_nonneg.2 hle)] at hnear
  have := le_abs_self (q - x)
  linarith

/-- Rounding does not pass over a binary number above. -/
theorem ge_of_ge (h : Rounded q x) (hy : IsBinary y) (hle : q ≤ y) : x ≤ y := by
  have hneg := h.neg.le_of_le hy.neg (neg_le_neg hle)
  exact neg_le_neg_iff.1 hneg

end Rounded

/-! ## Multiples of a power of two -/

/-- The nearest multiple of `2 ^ e` to a number, of two nearest ones the even one. -/
structure IsNearestMultiple (q : ℚ) (n e : ℤ) : Prop where
  near : |q - n * 2 ^ e| ≤ 2 ^ e / 2
  even : |q - n * 2 ^ e| = 2 ^ e / 2 → Even n

/-- No other multiple is nearer, and one that is as near is the next one. -/
theorem IsNearestMultiple.nearest {q : ℚ} {n e : ℤ} (h : IsNearestMultiple q n e) (j : ℤ) :
    |q - n * 2 ^ e| ≤ |q - j * 2 ^ e| ∧
      (j ≠ n → |q - n * 2 ^ e| = |q - j * 2 ^ e| →
        |q - n * 2 ^ e| = 2 ^ e / 2 ∧ |(n * 2 ^ e : ℚ) - j * 2 ^ e| = 2 ^ e) := by
  by_cases hj : j = n
  · subst hj
    exact ⟨le_rfl, fun hne => absurd rfl hne⟩
  · have hpos : (0 : ℚ) < 2 ^ e := by positivity
    have hone : (1 : ℚ) ≤ |(n : ℚ) - j| := by
      have hint : 1 ≤ |n - j| := Int.one_le_abs (sub_ne_zero.2 (Ne.symm hj))
      exact_mod_cast hint
    have hgap : (2 : ℚ) ^ e ≤ |(n * 2 ^ e : ℚ) - j * 2 ^ e| := by
      rw [← sub_mul, abs_mul, abs_of_pos hpos]
      exact le_mul_of_one_le_left hpos.le hone
    have htriangle : |(n * 2 ^ e : ℚ) - j * 2 ^ e| ≤ |q - n * 2 ^ e| + |q - j * 2 ^ e| := by
      rw [abs_sub_comm q (n * 2 ^ e)]
      exact abs_sub_le _ q _
    have hnear := h.near
    refine ⟨by linarith, fun _ heq => ⟨by linarith, by linarith⟩⟩

/-- A multiple of a power of two is a multiple of each smaller one. -/
theorem exists_multiple (m : ℤ) {e e' : ℤ} (h : e ≤ e') : ∃ j : ℤ, (m * 2 ^ e' : ℚ) = j * 2 ^ e := by
  obtain ⟨k, rfl⟩ := Int.exists_add_of_le h
  refine ⟨m * 2 ^ k, ?_⟩
  rw [zpow_add₀ (by norm_num), zpow_natCast]
  push_cast
  ring

/-- A binary number with a smaller last place is below the first number of 53 digits. -/
theorem lt_of_lt_place {m e e' : ℤ} (hm : |m| < 2 ^ 53) (h : e' < e) :
    (m * 2 ^ e' : ℚ) < 2 ^ 52 * 2 ^ e := by
  have hmq : (m : ℚ) < 2 ^ 53 := by exact_mod_cast (le_abs_self m).trans_lt hm
  have hstep : (2 : ℚ) ^ e' ≤ 2 ^ (e - 1) := zpow_le_zpow_right₀ (by norm_num) (by omega)
  have hpos : (0 : ℚ) < 2 ^ e' := by positivity
  calc (m * 2 ^ e' : ℚ) < 2 ^ 53 * 2 ^ e' := by gcongr
    _ ≤ 2 ^ 53 * 2 ^ (e - 1) := by gcongr
    _ = 2 ^ 52 * 2 ^ e := by
      rw [zpow_sub_one₀ two_ne_zero]
      ring

/-- A binary number is a multiple too, or it is farther away than the first number of 53 digits. -/
theorem IsNearestMultiple.multiple_or_lt {q : ℚ} {n e : ℤ} (h : IsNearestMultiple q n e)
    (hfine : e = -1074 ∨ 2 ^ 52 * 2 ^ e ≤ q) {y : ℚ} (hy : IsBinary y) :
    (∃ j : ℤ, y = j * 2 ^ e) ∨ |q - n * 2 ^ e| < |q - y| := by
  obtain ⟨m, e', hm, he', rfl⟩ := hy
  rcases le_or_gt e e' with hle | hlt
  · exact .inl (exists_multiple m hle)
  · right
    have hlow : 2 ^ 52 * 2 ^ e ≤ q := hfine.resolve_left (by omega)
    have hfirst := (h.nearest (2 ^ 52)).1
    rw [Int.cast_pow, Int.cast_ofNat, abs_of_nonneg (sub_nonneg.2 hlow)] at hfirst
    calc |q - n * 2 ^ e| ≤ q - 2 ^ 52 * 2 ^ e := hfirst
      _ < q - m * 2 ^ e' := by linarith [lt_of_lt_place hm hlt]
      _ ≤ |q - m * 2 ^ e'| := le_abs_self _

/-- **The nearest multiple is the nearest binary number**, if the multiples are as fine as 53 digits
allow at the place of the number, or as the smallest place allows. -/
theorem rounded_of_nearest_multiple {q : ℚ} {n e : ℤ} (hn : |n| ≤ 2 ^ 53) (he : -1074 ≤ e)
    (hfine : e = -1074 ∨ 2 ^ 52 * 2 ^ e ≤ q) (h : IsNearestMultiple q n e) :
    Rounded q (n * 2 ^ e) := by
  refine ⟨isBinary_mul_zpow hn he, fun y hy => ?_, fun y hy hne heq => ?_⟩
  · rcases h.multiple_or_lt hfine hy with ⟨j, rfl⟩ | hlt
    · exact (h.nearest j).1
    · exact hlt.le
  · rcases h.multiple_or_lt hfine hy with ⟨j, rfl⟩ | hlt
    · obtain ⟨hhalf, hgap⟩ := (h.nearest j).2 (fun hjn => hne (by rw [hjn])) heq
      obtain ⟨k, hk⟩ := h.even hhalf
      refine ⟨k, ?_⟩
      rw [hgap, hk]
      push_cast
      ring
    · exact absurd heq hlt.ne

/-! ## The limit -/

/-- The greatest binary number below `2 ^ 1024`. -/
def greatest : ℚ := (2 ^ 53 - 1) * 2 ^ 971

/-- The greatest number is an odd multiple of the gap behind it. -/
theorem greatest_eq : greatest = (2 ^ 53 - 1) * (2 * 2 ^ 970) := by rw [greatest, pow_succ' 2 970]

theorem limit_eq : (2 : ℚ) ^ 1024 = greatest + 2 * 2 ^ 970 := by
  rw [greatest, ← pow_succ', sub_one_mul, sub_add_cancel, ← pow_add]

theorem isBinary_greatest : IsBinary greatest :=
  ⟨2 ^ 53 - 1, 971, by decide, by decide, by rw [greatest, zpow_ofNat]; norm_num⟩

theorem isBinary_limit : IsBinary (2 ^ 1024) :=
  ⟨1, 1024, by decide, by decide, by rw [zpow_ofNat, Int.cast_one, one_mul]⟩

theorem IsBinary.le_greatest {x : ℚ} (h : IsBinary x) (hlt : x < 2 ^ 1024) : x ≤ greatest := by
  obtain ⟨m, e, hm, -, rfl⟩ := h
  rcases le_total e 971 with hle | hge
  · have hmq : (m : ℚ) ≤ 2 ^ 53 - 1 := by
      have hint : m ≤ 2 ^ 53 - 1 := Int.le_sub_one_of_lt ((le_abs_self m).trans_lt hm)
      exact_mod_cast hint
    have hpower : (2 : ℚ) ^ e ≤ 2 ^ 971 := by
      rw [← zpow_ofNat]
      exact zpow_le_zpow_right₀ one_le_two hle
    calc (m * 2 ^ e : ℚ) ≤ (2 ^ 53 - 1) * 2 ^ e := by gcongr
      _ ≤ greatest := mul_le_mul_of_nonneg_left hpower (by norm_num)
  · obtain ⟨j, hj⟩ := exists_multiple m hge
    have hpos : (0 : ℚ) < 2 ^ 971 := by positivity
    have hlimit : (2 : ℚ) ^ 1024 = 2 ^ 53 * 2 ^ 971 := by rw [← pow_add]
    rw [zpow_ofNat] at hj
    rw [hj, hlimit, mul_lt_mul_iff_left₀ hpos] at hlt
    have hjq : (j : ℚ) ≤ 2 ^ 53 - 1 := by
      have hint : j ≤ 2 ^ 53 - 1 := Int.le_sub_one_of_lt (by exact_mod_cast hlt)
      exact_mod_cast hint
    rw [hj, greatest]
    gcongr

/-- Rounding reaches the limit from the middle of the last gap on. -/
theorem Rounded.lt_limit_iff {q x : ℚ} (h : Rounded q x) :
    x < 2 ^ 1024 ↔ q < 2 ^ 1024 - 2 ^ 970 := by
  have hhalf : (0 : ℚ) < 2 ^ 970 := by positivity
  have hmultiple := greatest_eq
  have hlimit := limit_eq
  have hbelow := h.nearest _ isBinary_greatest
  have habove := h.nearest _ isBinary_limit
  have heven := h.even _ isBinary_limit
  have hle : x < 2 ^ 1024 → x ≤ greatest := h.isBinary.le_greatest
  generalize (2 : ℚ) ^ 1024 = limit at *
  generalize (2 : ℚ) ^ 970 = half at *
  constructor
  · intro hx
    have hxle : x ≤ greatest := hle hx
    by_contra hq
    rw [abs_of_nonneg (by linarith)] at habove
    -- Not nearer to the limit than to the greatest number, the number is in the middle of the gap.
    have hmiddle : q = limit - half ∧ x = greatest := by
      rcases abs_cases (q - limit) with ⟨habs, -⟩ | ⟨habs, -⟩
      · rw [habs] at habove
        linarith
      · rw [habs] at habove
        exact ⟨by linarith, by linarith⟩
    obtain ⟨rfl, rfl⟩ := hmiddle
    have htie : |limit - half - greatest| = |limit - half - limit| := by
      rw [abs_of_nonneg (by linarith), abs_of_nonpos (by linarith)]
      linarith
    -- The greatest number is an odd multiple of the gap, so the tie is not its own.
    obtain ⟨k, hk⟩ := heven hx.ne' htie
    rw [abs_of_nonpos (by linarith), hlimit, neg_sub, add_sub_cancel_left, hmultiple] at hk
    have hodd : (2 ^ 53 - 1 : ℚ) = 2 * k := mul_right_cancel₀ (by positivity) hk
    have hint : (2 ^ 53 - 1 : ℤ) = 2 * k := by exact_mod_cast hodd
    omega
  · intro hq
    by_contra hx
    rw [abs_of_nonpos (by linarith)] at hbelow
    rcases abs_cases (q - greatest) with ⟨habs, -⟩ | ⟨habs, -⟩ <;> rw [habs] at hbelow <;> linarith

theorem Rounded.abs_lt_limit_iff {q x : ℚ} (h : Rounded q x) :
    |x| < 2 ^ 1024 ↔ |q| < 2 ^ 1024 - 2 ^ 970 := by
  rw [abs_eq_max_neg, abs_eq_max_neg, max_lt_iff, max_lt_iff, h.lt_limit_iff, h.neg.lt_limit_iff]

/-! ## Ratios of natural numbers -/

/-- A quotient is rounded to the nearest natural number, of two nearest ones to the even one. -/
theorem abs_div_sub_divToNearest (a : ℕ) {b : ℕ} (hb : 0 < b) :
    |(a / b : ℚ) - divToNearest a b| ≤ 1 / 2 ∧
      (|(a / b : ℚ) - divToNearest a b| = 1 / 2 → Even (divToNearest a b)) := by
  have hbq : (0 : ℚ) < b := by exact_mod_cast hb
  have hdist (n : ℕ) : |(a / b : ℚ) - n| = (|(a : ℤ) - n * b| : ℤ) / b := by
    have hdiff : (a / b : ℚ) - n = ((a : ℤ) - n * b : ℤ) / b := by
      push_cast
      field_simp
    rw [hdiff, abs_div, abs_of_pos hbq, Int.cast_abs]
  -- Everything is twice a distance of integers, compared with the divisor.
  have hhalf {δ : ℤ} : ((δ : ℚ) / b ≤ 1 / 2 ↔ 2 * δ ≤ b) ∧ ((δ : ℚ) / b = 1 / 2 ↔ 2 * δ = b) := by
    rw [div_le_div_iff₀ hbq two_pos, div_eq_div_iff hbq.ne' two_ne_zero, one_mul, mul_comm (δ : ℚ)]
    exact ⟨by exact_mod_cast Iff.rfl, by exact_mod_cast Iff.rfl⟩
  rw [hdist, hhalf.1, hhalf.2]
  obtain ⟨k, r, hk, hr, ha⟩ : ∃ k r, a / b = k ∧ a % b = r ∧ a = k * b + r :=
    ⟨_, _, rfl, rfl, (Nat.div_add_mod' a b).symm⟩
  have hrb : r < b := hr ▸ Nat.mod_lt a hb
  rw [divToNearest, hk, hr]
  split
  · next hup =>
    have hdelta : (a : ℤ) - (k + 1 : ℕ) * b = -(b - r) := by
      rw [ha]
      push_cast
      ring
    rw [hdelta, abs_neg, abs_of_nonneg (by omega)]
    exact ⟨by omega, fun htie => Nat.even_iff.2 (by omega)⟩
  · next hdown =>
    have hdelta : (a : ℤ) - (k : ℕ) * b = r := by
      rw [ha]
      push_cast
      ring
    rw [hdelta, abs_of_nonneg (by omega)]
    exact ⟨by omega, fun htie => Nat.even_iff.2 (by omega)⟩

namespace Magnitude

/-- The number that a magnitude is. -/
def value (m : Magnitude) : ℚ := m.mantissa * 2 ^ m.exponent

theorem scaleRatio_pos (a : ℕ) {b : ℕ} (hb : 0 < b) (e : ℤ) : 0 < (scaleRatio a b e).2 := by
  unfold scaleRatio
  split
  · exact Nat.mul_pos hb (Nat.pow_pos two_pos)
  · exact hb

/-- A scaled ratio is a ratio of natural numbers again. -/
theorem scaleRatio_eq (a b : ℕ) (e : ℤ) :
    ((scaleRatio a b e).1 / (scaleRatio a b e).2 : ℚ) * 2 ^ e = a / b := by
  unfold scaleRatio
  split
  · next he =>
    obtain ⟨k, rfl⟩ := Int.eq_ofNat_of_zero_le he
    simp only [Int.toNat_natCast, Nat.pow_eq, Nat.cast_mul, Nat.cast_pow, Nat.cast_ofNat,
      zpow_natCast]
    field_simp
  · next he =>
    obtain ⟨k, hk⟩ := Int.eq_ofNat_of_zero_le (show 0 ≤ -e by omega)
    obtain rfl : e = -(k : ℤ) := by omega
    simp only [neg_neg, Int.toNat_natCast, Nat.pow_eq, Nat.cast_mul, Nat.cast_pow, Nat.cast_ofNat,
      zpow_neg, zpow_natCast]
    field_simp

/-- The place of the last digit, if the ratio has 53 of them. -/
def firstGuess (a b : ℕ) : ℤ := (Nat.log2 a : ℤ) - Nat.log2 b - 52

/-- The place of the last digit of a ratio. -/
def place (a b : ℕ) : ℤ :=
  max (-1074) <|
    if (scaleRatio a b (firstGuess a b)).1 / (scaleRatio a b (firstGuess a b)).2 < Nat.pow 2 52 then
      firstGuess a b - 1
    else firstGuess a b

/-- The digits of a ratio up to that place. -/
def digitsOf (a b : ℕ) : ℕ :=
  divToNearest (scaleRatio a b (place a b)).1 (scaleRatio a b (place a b)).2

/-- The nearest magnitude to a ratio, without a limit. -/
def nearest (a b : ℕ) : Magnitude :=
  if digitsOf a b = Nat.pow 2 53 then ⟨Nat.pow 2 52, place a b + 1⟩ else ⟨digitsOf a b, place a b⟩

theorem ofRatio?_eq {a : ℕ} (ha : a ≠ 0) (b : ℕ) :
    ofRatio? a b = if (nearest a b).exponent > 971 then none else some (nearest a b) := by
  rw [ofRatio?, if_neg ha]
  rfl

variable {a b : ℕ}

/-- The first guess is too high by one place at most. -/
theorem firstGuess_bounds (ha : 0 < a) (hb : 0 < b) :
    (2 ^ 51 * 2 ^ firstGuess a b : ℚ) < a / b ∧ (a / b : ℚ) < 2 ^ 53 * 2 ^ firstGuess a b := by
  have hbq : (0 : ℚ) < b := by exact_mod_cast hb
  have halow : (2 : ℚ) ^ (Nat.log2 a : ℤ) ≤ a := by
    exact_mod_cast Nat.log2_self_le ha.ne'
  have hahigh : (a : ℚ) < 2 ^ ((Nat.log2 a : ℤ) + 1) := by
    exact_mod_cast Nat.lt_log2_self (n := a)
  have hblow : (2 : ℚ) ^ (Nat.log2 b : ℤ) ≤ b := by
    exact_mod_cast Nat.log2_self_le hb.ne'
  have hbhigh : (b : ℚ) < 2 ^ ((Nat.log2 b : ℤ) + 1) := by
    exact_mod_cast Nat.lt_log2_self (n := b)
  constructor
  · rw [lt_div_iff₀ hbq]
    calc (2 ^ 51 * 2 ^ firstGuess a b * b : ℚ)
        < 2 ^ 51 * 2 ^ firstGuess a b * 2 ^ ((Nat.log2 b : ℤ) + 1) := by gcongr
      _ = 2 ^ (Nat.log2 a : ℤ) := by
        rw [firstGuess, ← zpow_natCast (2 : ℚ) 51, ← zpow_add₀ two_ne_zero, ← zpow_add₀ two_ne_zero]
        congr 1
        push_cast
        ring
      _ ≤ a := halow
  · rw [div_lt_iff₀ hbq]
    calc (a : ℚ) < 2 ^ ((Nat.log2 a : ℤ) + 1) := hahigh
      _ = 2 ^ 53 * 2 ^ firstGuess a b * 2 ^ (Nat.log2 b : ℤ) := by
        rw [firstGuess, ← zpow_natCast (2 : ℚ) 53, ← zpow_add₀ two_ne_zero, ← zpow_add₀ two_ne_zero]
        congr 1
        push_cast
        ring
      _ ≤ 2 ^ 53 * 2 ^ firstGuess a b * b := by gcongr

/-- A ratio is a quotient times a power of two. -/
theorem exists_scaled (a : ℕ) (hb : 0 < b) (e : ℤ) :
    ∃ c d : ℕ, scaleRatio a b e = (c, d) ∧ 0 < d ∧ (a / b : ℚ) = c / d * 2 ^ e :=
  ⟨_, _, rfl, scaleRatio_pos a hb e, (scaleRatio_eq a b e).symm⟩

/-- The place is the last of 53 digits, or it is the smallest one and there are fewer. -/
theorem place_bounds (ha : 0 < a) (hb : 0 < b) :
    -1074 ≤ place a b ∧ (a / b : ℚ) < 2 ^ 53 * 2 ^ place a b ∧
      (place a b = -1074 ∨ (2 ^ 52 * 2 ^ place a b : ℚ) ≤ a / b) := by
  obtain ⟨hlow, hhigh⟩ := firstGuess_bounds ha hb
  obtain ⟨c, d, hscale, hd, hratio⟩ := exists_scaled a hb (firstGuess a b)
  have hpos : (0 : ℚ) < 2 ^ firstGuess a b := by positivity
  have hdq : (0 : ℚ) < d := by exact_mod_cast hd
  have hless : c / d < Nat.pow 2 52 ↔ (a / b : ℚ) < 2 ^ 52 * 2 ^ firstGuess a b := by
    rw [hratio, mul_lt_mul_iff_left₀ hpos, div_lt_iff₀ hdq, Nat.div_lt_iff_lt_mul hd, Nat.pow_eq]
    exact_mod_cast Iff.rfl
  obtain ⟨e, he, helow, hehigh⟩ : ∃ e, place a b = max (-1074) e ∧
      (2 ^ 52 * 2 ^ e : ℚ) ≤ a / b ∧ (a / b : ℚ) < 2 ^ 53 * 2 ^ e := by
    unfold place
    rw [hscale]
    split
    · next h =>
      have hstep : (2 : ℚ) ^ (firstGuess a b - 1) = 2 ^ firstGuess a b / 2 :=
        zpow_sub_one₀ two_ne_zero _
      refine ⟨_, rfl, ?_, ?_⟩ <;> rw [hstep]
      · linarith
      · linarith [hless.1 h]
    · next h => exact ⟨_, rfl, not_lt.1 (mt hless.2 h), hhigh⟩
  rw [he]
  refine ⟨le_max_left _ _, hehigh.trans_le ?_, ?_⟩
  · gcongr
    · norm_num
    · exact le_max_right _ _
  · rcases max_choice (-1074) e with h | h <;> rw [h]
    · exact .inl rfl
    · exact .inr helow

/-- The digits are the ratio at that place, rounded. -/
theorem isNearestMultiple_digitsOf (a : ℕ) (hb : 0 < b) :
    IsNearestMultiple (a / b) (digitsOf a b) (place a b) := by
  obtain ⟨c, d, hscale, hd, hratio⟩ := exists_scaled a hb (place a b)
  have hdigits : digitsOf a b = divToNearest c d := by rw [digitsOf, hscale]
  obtain ⟨hnear, heven⟩ := abs_div_sub_divToNearest c hd
  have hpos : (0 : ℚ) < 2 ^ place a b := by positivity
  have hdist : |(a / b : ℚ) - (digitsOf a b : ℤ) * 2 ^ place a b| =
      |(c / d : ℚ) - divToNearest c d| * 2 ^ place a b := by
    rw [hdigits, hratio, Int.cast_natCast, ← sub_mul, abs_mul, abs_of_pos hpos]
  have hhalf : (2 : ℚ) ^ place a b / 2 = 1 / 2 * 2 ^ place a b := by ring
  constructor
  · rw [hdist, hhalf]
    gcongr
  · intro htie
    rw [hdist, hhalf] at htie
    rw [hdigits]
    exact_mod_cast heven (mul_right_cancel₀ hpos.ne' htie)

/-- There are no more than 53 digits, except that rounding up may make the next power of two. -/
theorem digitsOf_le (ha : 0 < a) (hb : 0 < b) : digitsOf a b ≤ 2 ^ 53 := by
  have hnear := abs_le.1 (isNearestMultiple_digitsOf a hb).near
  have hhigh := (place_bounds ha hb).2.1
  have hpos : (0 : ℚ) < 2 ^ place a b := by positivity
  by_contra hlt
  have hmore : ((2 : ℚ) ^ 53 + 1) ≤ digitsOf a b := by exact_mod_cast not_le.1 hlt
  have hmul := mul_le_mul_of_nonneg_right hmore hpos.le
  rw [Int.cast_natCast] at hnear
  linarith [hnear.1]

theorem value_nearest (a b : ℕ) : (nearest a b).value = (digitsOf a b : ℤ) * 2 ^ place a b := by
  unfold nearest
  split
  · next h =>
    rw [h, value, zpow_add_one₀ two_ne_zero, Nat.pow_eq, Nat.pow_eq]
    push_cast
    ring
  · rw [value, Int.cast_natCast]

/-- The digits at their place are the nearest number. -/
theorem rounded_nearest (ha : 0 < a) (hb : 0 < b) : Rounded (a / b) (nearest a b).value := by
  obtain ⟨hplace, -, hfine⟩ := place_bounds ha hb
  have hdigits : |(digitsOf a b : ℤ)| ≤ 2 ^ 53 := by
    rw [abs_of_nonneg (Int.natCast_nonneg _)]
    exact_mod_cast digitsOf_le ha hb
  rw [value_nearest]
  exact rounded_of_nearest_multiple hdigits hplace hfine (isNearestMultiple_digitsOf a hb)

/-- A magnitude has 53 digits, or its last digit stands at the smallest place. -/
theorem mantissa_nearest (ha : 0 < a) (hb : 0 < b) :
    (nearest a b).mantissa < 2 ^ 53 ∧
      ((nearest a b).exponent ≤ -1074 ∨ 2 ^ 52 ≤ (nearest a b).mantissa) := by
  unfold nearest
  split
  · exact ⟨show Nat.pow 2 52 < 2 ^ 53 by decide, .inr le_rfl⟩
  · next hdigits =>
    refine ⟨lt_of_le_of_ne (digitsOf_le ha hb) hdigits, ?_⟩
    refine (place_bounds ha hb).2.2.imp le_of_eq fun hlow => ?_
    have hnear := abs_le.1 (isNearestMultiple_digitsOf a hb).near
    have hpos : (0 : ℚ) < 2 ^ place a b := by positivity
    by_contra hlt
    have hless : (digitsOf a b : ℚ) ≤ 2 ^ 52 - 1 := by
      have hnat : digitsOf a b + 1 ≤ 2 ^ 52 := not_le.1 hlt
      rw [le_sub_iff_add_le]
      exact_mod_cast hnat
    have hmul := mul_le_mul_of_nonneg_right hless hpos.le
    rw [Int.cast_natCast] at hnear
    linarith [hnear.2]

/-- The place of the last digit says whether the limit is reached. -/
theorem exponent_nearest_gt_iff (ha : 0 < a) (hb : 0 < b) :
    (nearest a b).exponent > 971 ↔ 2 ^ 1024 ≤ (nearest a b).value := by
  obtain ⟨hhigh, hlow⟩ := mantissa_nearest ha hb
  unfold value
  generalize nearest a b = m at hhigh hlow ⊢
  constructor
  · intro hlarge
    have hmantissa : (2 ^ 52 : ℚ) ≤ m.mantissa := by exact_mod_cast hlow.resolve_left (by omega)
    calc (2 : ℚ) ^ 1024 = 2 ^ 52 * 2 ^ (972 : ℤ) := by rw [zpow_ofNat, ← pow_add]
      _ ≤ (m.mantissa : ℚ) * 2 ^ m.exponent := by
        gcongr
        · norm_num
        · exact hlarge
  · contrapose!
    intro hsmall
    have hmantissa : (m.mantissa : ℚ) < 2 ^ 53 := by exact_mod_cast hhigh
    calc (m.mantissa * 2 ^ m.exponent : ℚ) ≤ m.mantissa * 2 ^ (971 : ℤ) := by
          gcongr
          · norm_num
      _ < 2 ^ 53 * 2 ^ (971 : ℤ) := by gcongr
      _ = 2 ^ 1024 := by rw [zpow_ofNat, ← pow_add]

theorem value_zero : zero.value = 0 := by simp [zero, value]

/-- **A ratio is rounded to the nearest binary number**, and refused if that reaches the limit. -/
theorem ofRatio?_rounds (a : ℕ) (hb : 0 < b) :
    ∃ m : Magnitude, Rounded (a / b) m.value ∧
      ofRatio? a b = if m.value < 2 ^ 1024 then some m else none := by
  rcases Nat.eq_zero_or_pos a with rfl | ha
  · refine ⟨zero, ?_, ?_⟩
    · rw [Nat.cast_zero, zero_div, value_zero]
      exact .self ⟨0, 0, by decide, by decide, by simp⟩
    · rw [value_zero, if_pos (by positivity)]
      rfl
  · refine ⟨nearest a b, rounded_nearest ha hb, ?_⟩
    rw [ofRatio?_eq ha.ne']
    simp only [exponent_nearest_gt_iff ha hb, ← not_le, ite_not]

/-! ## Decimal numbers -/

/-- The size of a decimal number is the place of its first digit. -/
theorem ten_zpow_bounds {digits : ℕ} (h : digits ≠ 0) (exponent : ℤ) :
    (10 : ℚ) ^ ((Text.ofNat digits).length + exponent - 1) ≤ digits * 10 ^ exponent ∧
      (digits * 10 ^ exponent : ℚ) < 10 ^ ((Text.ofNat digits).length + exponent) := by
  have hlength : 0 < (Text.ofNat digits).length := Nat.length_toDigits_pos
  have hiff {k : ℕ} (hk : 0 < k) : (Text.ofNat digits).length ≤ k ↔ digits < 10 ^ k :=
    Nat.length_toDigits_le_iff (by decide) hk
  obtain ⟨n, hn⟩ := Nat.exists_eq_add_of_lt hlength
  rw [Nat.zero_add] at hn
  have hlow : 10 ^ n ≤ digits := by
    rcases Nat.eq_zero_or_pos n with rfl | hpos
    · exact Nat.one_le_iff_ne_zero.2 h
    · rw [← not_lt, ← hiff hpos]
      omega
  have hhigh : digits < 10 ^ (n + 1) := by
    rw [← hiff n.succ_pos, hn]
  have hpos : (0 : ℚ) < 10 ^ exponent := by positivity
  constructor
  · have hsize : ((Text.ofNat digits).length + exponent - 1 : ℤ) = n + exponent := by omega
    have hlowq : (10 : ℚ) ^ n ≤ digits := by exact_mod_cast hlow
    rw [hsize, zpow_add₀ (by norm_num), zpow_natCast]
    gcongr
  · have hhighq : (digits : ℚ) < 10 ^ (n + 1) := by exact_mod_cast hhigh
    rw [zpow_add₀ (by norm_num), hn, zpow_natCast]
    gcongr

/-- Powers of ten and of two, far outside the finite range. -/
theorem ten_zpow_neg_lt : (10 : ℚ) ^ (-401 : ℤ) < 2 ^ (-1074 : ℤ) / 2 := by
  have hpowers : (2 : ℚ) ^ 1075 < 10 ^ 401 := by
    calc (2 : ℚ) ^ 1075 < 2 ^ (3 * 401) := pow_lt_pow_right₀ (by norm_num) (by norm_num)
      _ = (2 ^ 3) ^ 401 := pow_mul 2 3 401
      _ ≤ 10 ^ 401 := by
        gcongr
        norm_num
  have hhalf : (2 : ℚ) ^ (-1074 : ℤ) / 2 = (2 ^ 1075)⁻¹ := by
    rw [zpow_neg, zpow_ofNat, pow_succ 2 1074, mul_inv, div_eq_mul_inv]
  rw [hhalf, zpow_neg, zpow_ofNat]
  exact inv_strictAnti₀ (by positivity) hpowers

theorem two_pow_le_ten_zpow : (2 : ℚ) ^ 1024 ≤ 10 ^ (400 : ℤ) := by
  calc (2 : ℚ) ^ 1024 ≤ 2 ^ (3 * 400) := pow_le_pow_right₀ (by norm_num) (by norm_num)
    _ = (2 ^ 3) ^ 400 := pow_mul 2 3 400
    _ ≤ 10 ^ 400 := by
      gcongr
      norm_num
    _ = 10 ^ (400 : ℤ) := (zpow_ofNat 10 400).symm

/-- What is smaller than half of the smallest place is rounded to zero. -/
theorem rounded_zero_of_lt {q : ℚ} (hnonneg : 0 ≤ q) (h : q < 2 ^ (-1074 : ℤ) / 2) : Rounded q 0 := by
  have hzero : Rounded q ((0 : ℤ) * 2 ^ (-1074 : ℤ)) := by
    refine rounded_of_nearest_multiple (by decide) le_rfl (.inl rfl) ⟨?_, fun _ => Even.zero⟩
    rw [Int.cast_zero, zero_mul, sub_zero, abs_of_nonneg hnonneg]
    exact h.le
  rwa [Int.cast_zero, zero_mul] at hzero

/-- The ratio that a decimal number is. -/
theorem exists_ratio (digits : ℕ) (exponent : ℤ) :
    ∃ a b : ℕ, 0 < b ∧ (a / b : ℚ) = digits * 10 ^ exponent ∧
      (if 0 ≤ exponent then ofRatio? (digits * Nat.pow 10 exponent.toNat) 1
        else ofRatio? digits (Nat.pow 10 (-exponent).toNat)) = ofRatio? a b := by
  split
  · next h =>
    refine ⟨_, _, one_pos, ?_, rfl⟩
    obtain ⟨k, rfl⟩ := Int.eq_ofNat_of_zero_le h
    simp
  · next h =>
    refine ⟨_, _, Nat.pow_pos (by decide), ?_, rfl⟩
    obtain ⟨k, hk⟩ := Int.eq_ofNat_of_zero_le (show 0 ≤ -exponent by omega)
    obtain rfl : exponent = -(k : ℤ) := by omega
    simp [div_eq_mul_inv]

/-- **A decimal number is rounded to the nearest binary number**, and refused if that reaches the
limit. -/
theorem ofDecimal?_rounds (digits : ℕ) (exponent : ℤ) :
    ∃ m : Magnitude, Rounded (digits * 10 ^ exponent) m.value ∧
      ofDecimal? digits exponent = if m.value < 2 ^ 1024 then some m else none := by
  obtain ⟨a, b, hb, hq, hofRatio⟩ := exists_ratio digits exponent
  obtain ⟨m, hrounded, hm⟩ := ofRatio?_rounds a hb
  rw [hq] at hrounded
  unfold ofDecimal?
  dsimp only
  split
  · next hsmall =>
    have htiny : (digits * 10 ^ exponent : ℚ) < 2 ^ (-1074 : ℤ) / 2 := by
      by_cases hzero : digits = 0
      · rw [hzero, Nat.cast_zero, zero_mul]
        positivity
      · have hsize := hsmall.resolve_left hzero
        calc (digits * 10 ^ exponent : ℚ) < 10 ^ _ := (ten_zpow_bounds hzero exponent).2
          _ ≤ (10 : ℚ) ^ (-401 : ℤ) := zpow_le_zpow_right₀ (by norm_num) (by omega)
          _ < 2 ^ (-1074 : ℤ) / 2 := ten_zpow_neg_lt
    refine ⟨zero, ?_, ?_⟩
    · rw [value_zero]
      exact rounded_zero_of_lt (by positivity) htiny
    · rw [value_zero, if_pos (by positivity)]
  split
  · next hsmall hlarge =>
    rw [not_or] at hsmall
    have hlimit : (2 : ℚ) ^ 1024 ≤ digits * 10 ^ exponent := by
      calc (2 : ℚ) ^ 1024 ≤ 10 ^ (400 : ℤ) := two_pow_le_ten_zpow
        _ ≤ 10 ^ ((Text.ofNat digits).length + exponent - 1) :=
          zpow_le_zpow_right₀ (by norm_num) (by omega)
        _ ≤ digits * 10 ^ exponent := (ten_zpow_bounds hsmall.1 exponent).1
    refine ⟨m, hrounded, ?_⟩
    rw [if_neg (not_lt.2 (hrounded.le_of_le isBinary_limit hlimit))]
  · exact ⟨m, hrounded, hofRatio.trans hm⟩

end Magnitude

end PubList.Number
