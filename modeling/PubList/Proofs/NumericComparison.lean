import PubList.Proofs.Numeral
import PubList.Proofs.WholePart
import PubList.Template.Operator

/-!
# Comparisons of decimal numbers

A decimal number is written with an optional sign, digits, an optional point with more digits, and blanks
around it. What it counts as in a comparison is known for each of them (`DecimalText.CountsAs`): without a
point, the integer itself if it fits in 64 bits; otherwise the whole part of the number rounded to a
binary one, brought into the range of 64 bits, if that is finite.

So a comparison of two numbers is the one of their whole parts, in that range, where rounding keeps the
whole parts (`DecimalText.IsKept`).
-/

namespace PubList.Template

open Number

/-- The parts of a decimal number without an exponent, as it is written. -/
structure DecimalText where
  before : Text
  sign : Text
  whole : Text
  fraction : Option Text
  after : Text
  isBlank : ∀ c ∈ before ++ after, Text.isBlank c = true
  sign_mem : sign ∈ [[], ['+'], ['-']]
  isDigit : ∀ c ∈ whole ++ fraction.getD [], c.isDigit = true
  whole_ne_nil : whole ≠ []

namespace DecimalText

/-- The digits, without the point. -/
def digits (d : DecimalText) : Text := d.whole ++ d.fraction.getD []

/-- The point and the digits behind it. -/
def pointed (d : DecimalText) : Text :=
  match d.fraction with
  | none => []
  | some fraction => '.' :: fraction

/-- The number as it is written, without the blanks around it. -/
def core (d : DecimalText) : Text := d.sign ++ (d.whole ++ d.pointed)

def text (d : DecimalText) : Text := d.before ++ d.core ++ d.after

/-- The integer that the digits are. -/
def number (d : DecimalText) : ℕ := Nat.ofDigitChars 10 d.digits 0

/-- How many digits stand behind the point. -/
def places (d : DecimalText) : ℕ := (d.fraction.getD []).length

/-- The exact number. -/
def value (d : DecimalText) : ℚ :=
  if d.sign = ['-'] then -(d.number / 10 ^ d.places) else d.number / 10 ^ d.places

/-! ## Reading -/

theorem isDigit_of_mem_whole (d : DecimalText) {c : Char} (hc : c ∈ d.whole) : c.isDigit = true :=
  d.isDigit c (List.mem_append_left _ hc)

theorem isDigit_of_mem_fraction (d : DecimalText) {fraction : Text} (h : d.fraction = some fraction)
    {c : Char} (hc : c ∈ fraction) : c.isDigit = true :=
  d.isDigit c (List.mem_append_right _ (by rwa [h]))

/-- The number itself has no blanks. -/
theorem trim_text (d : DecimalText) : Text.trim d.text = d.core := by
  have hblank := List.forall_mem_append.1 d.isBlank
  rw [text, Text.trim, Text.trimWhere_append_right hblank.2, Text.trimWhere_append_left hblank.1]
  refine Text.trimWhere_eq_self fun c hc => ?_
  rcases List.mem_append.1 hc with hsign | hrest
  · have hsigns : ∀ sign ∈ [[], ['+'], ['-']], ∀ c ∈ sign, Text.isBlank c = false := by decide
    exact hsigns _ d.sign_mem c hsign
  rcases List.mem_append.1 hrest with hwhole | hpointed
  · exact Text.isBlank_of_isDigit (d.isDigit_of_mem_whole hwhole)
  · unfold pointed at hpointed
    split at hpointed
    · cases hpointed
    · next fraction hfraction =>
      rcases List.mem_cons.1 hpointed with rfl | hc
      · decide
      · exact Text.isBlank_of_isDigit (d.isDigit_of_mem_fraction hfraction hc)

theorem splitSign_core (d : DecimalText) :
    splitSign d.core = (decide (d.sign = ['-']), d.whole ++ d.pointed) := by
  have hsign := d.sign_mem
  simp only [List.mem_cons, List.not_mem_nil, or_false] at hsign
  unfold core
  rcases hsign with h | h | h <;> rw [h]
  · obtain ⟨c, whole, hwhole⟩ := List.exists_cons_of_ne_nil d.whole_ne_nil
    have hdigit : c.isDigit = true := d.isDigit_of_mem_whole (hwhole ▸ List.mem_cons_self)
    have hne {sign : Char} (hsign : sign.isDigit = false) : c ≠ sign := by
      rintro rfl
      rw [hdigit] at hsign
      cases hsign
    rw [hwhole, List.nil_append, List.cons_append, splitSign]
    · rfl
    · exact fun _ heq => hne (by decide) (List.cons.inj heq).1
    · exact fun _ heq => hne (by decide) (List.cons.inj heq).1
  · rfl
  · rfl

/-- Digits are taken up to the first character that is not one. -/
theorem spanDigits_append {s t : Text} (hs : ∀ c ∈ s, c.isDigit = true)
    (ht : ∀ c ∈ t.head?, c.isDigit = false) : spanDigits (s ++ t) = (s, t) := by
  rw [spanDigits, List.takeWhile_append_of_pos hs, List.dropWhile_append_of_pos hs,
    Text.dropWhile_of_head ht]
  cases t with
  | nil => simp
  | cons c t => simp [ht c rfl]

theorem readNat?_digits (d : DecimalText) : readNat? 10 d.digits = some d.number := by
  have hne : d.digits ≠ [] := fun h => d.whole_ne_nil (List.append_eq_nil_iff.1 h).1
  have hread : appendDigits? 10 0 d.digits = some d.number := appendDigits?_of_isDigit d.isDigit 0
  rw [readNat?, if_neg hne, hread]

/-- What a decimal number is read as. -/
def decimal (d : DecimalText) : Decimal :=
  ⟨d.sign = ['-'], d.number, -(d.places : ℤ)⟩

theorem readDecimal?_core (d : DecimalText) : Decimal.read? d.core = some d.decimal := by
  have hnumber := d.readNat?_digits
  have hwhole : spanDigits (d.whole ++ d.pointed) = (d.whole, d.pointed) := by
    refine spanDigits_append (fun c => d.isDigit_of_mem_whole) fun c hc => ?_
    unfold pointed at hc
    split at hc <;> cases hc
    decide
  rw [Decimal.read?, d.splitSign_core]
  simp only [Decimal.readUnsigned?, hwhole]
  unfold digits at hnumber
  unfold pointed decimal places
  cases hfraction : d.fraction with
  | none =>
    rw [hfraction, Option.getD_none, List.append_nil] at hnumber
    simp [hnumber, Decimal.readExponent?]
  | some fraction =>
    have hspan : spanDigits fraction = (fraction, []) := by
      simpa using spanDigits_append (t := []) (fun c => d.isDigit_of_mem_fraction hfraction) (by simp)
    rw [hfraction, Option.getD_some] at hnumber
    simp [hspan, hnumber, Decimal.readExponent?]

/-- An integer is digits behind a sign. -/
theorem readInt?_eq (t : Text) :
    readInt? t = (readNat? 10 (splitSign t).2).map fun n => if (splitSign t).1 then -(n : ℤ) else n := by
  unfold readInt?
  split
  · rfl
  · rfl
  · next hminus hplus =>
    have hsign : splitSign t = (false, t) := by rw [splitSign] <;> assumption
    rw [hsign]
    rfl

/-- A number without a point is read as an integer, and only such a one. -/
theorem readInt?_core (d : DecimalText) :
    readInt? d.core =
      if d.fraction = none then some (if d.sign = ['-'] then -(d.number : ℤ) else d.number) else none := by
  have hnumber := d.readNat?_digits
  rw [readInt?_eq, d.splitSign_core]
  unfold digits at hnumber
  unfold pointed
  cases hfraction : d.fraction with
  | none =>
    rw [hfraction, Option.getD_none, List.append_nil] at hnumber
    simp [hnumber]
  | some fraction =>
    have hpoint : readNat? 10 (d.whole ++ '.' :: fraction) = none := by
      rw [Option.eq_none_iff_forall_ne_some]
      intro n hn
      have hdigit : '.'.isDigit = true := isDigit_of_mem_of_readNat? hn (by simp)
      exact absurd hdigit (by decide)
    simp [hpoint]

/-! ## What a number counts as -/

theorem decimal_value (d : DecimalText) : d.decimal.value = d.value := by
  unfold Decimal.value decimal value
  rw [zpow_neg, zpow_natCast, ← div_eq_mul_inv]
  simp only [decide_eq_true_eq]

/-- The whole part leaves out the digits behind the point. -/
theorem wholePart_value (d : DecimalText) :
    wholePart d.value =
      if d.sign = ['-'] then -((d.number / 10 ^ d.places : ℕ) : ℤ)
      else (d.number / 10 ^ d.places : ℕ) := by
  have hquotient : wholePart (d.number / 10 ^ d.places : ℚ) = (d.number / 10 ^ d.places : ℕ) := by
    have hfloor := Rat.floor_natCast_div_natCast d.number (10 ^ d.places)
    rw [Nat.cast_pow, Nat.cast_ofNat] at hfloor
    rw [wholePart_of_nonneg (by positivity), hfloor]
    push_cast
    rfl
  unfold value
  split
  · rw [wholePart_neg, hquotient]
  · exact hquotient

/-- Without a point, the number is an integer. -/
theorem integer_of_fraction_eq_none {d : DecimalText} (h : d.fraction = none) :
    d.value = (wholePart d.value : ℤ) ∧
      wholePart d.value = if d.sign = ['-'] then -(d.number : ℤ) else d.number := by
  have hplaces : d.places = 0 := by rw [places, h]; rfl
  have hwhole := d.wholePart_value
  rw [hplaces, pow_zero, Nat.div_one] at hwhole
  refine ⟨?_, hwhole⟩
  rw [hwhole, value, hplaces, pow_zero, div_one]
  split <;> simp

/-- What a number is read as for a comparison, with the number that it is rounded to. -/
theorem wholeNumber?_text (d : DecimalText) :
    ∃ x, Rounded d.value x ∧
      wholeNumber? d.text =
        if d.fraction = none ∧ isInt64 (wholePart d.value) then some (wholePart d.value)
        else if |x| < 2 ^ 1024 then some (clampInt64 (wholePart x)) else none := by
  obtain ⟨x, hrounded, hx⟩ := Binary64.ofDecimal?_rounds d.decimal
  rw [d.decimal_value] at hrounded
  refine ⟨x, hrounded, ?_⟩
  have hnumber : (Binary64.ofDecimal? d.decimal).bind (fun x => some (clampInt64 x.truncate)) =
      if |x| < 2 ^ 1024 then some (clampInt64 (wholePart x)) else none := by
    have hcompose : (Binary64.ofDecimal? d.decimal).bind (fun x => some (clampInt64 x.truncate)) =
        ((Binary64.ofDecimal? d.decimal).map Binary64.truncate).map clampInt64 := by
      cases Binary64.ofDecimal? d.decimal <;> rfl
    rw [hcompose, hx]
    split <;> rfl
  unfold wholeNumber?
  dsimp only
  rw [d.trim_text, readInt64?, d.readInt?_core, d.readDecimal?_core]
  by_cases hfraction : d.fraction = none
  · rw [if_pos hfraction, ← (integer_of_fraction_eq_none hfraction).2]
    by_cases hfits : isInt64 (wholePart d.value) = true
    · rw [if_pos ⟨hfraction, hfits⟩, Option.filter_some_pos hfits]
    · rw [if_neg fun h => hfits h.2, Option.filter_some_neg (Bool.not_eq_true _ ▸ hfits)]
      exact hnumber
  · rw [if_neg hfraction, if_neg fun h => hfraction h.1]
    exact hnumber

/-- What a number counts as in a comparison: an integer of 64 bits without a point as itself, any other
number as the whole part of the finite number that it is rounded to, brought into the range of 64 bits. -/
def CountsAs (d : DecimalText) (n : ℤ) : Prop :=
  if d.fraction = none ∧ isInt64 (wholePart d.value) then n = wholePart d.value
  else ∃ x, Rounded d.value x ∧ |x| < 2 ^ 1024 ∧ n = clampInt64 (wholePart x)

theorem wholeNumber?_text_eq_some_iff {d : DecimalText} {n : ℤ} :
    wholeNumber? d.text = some n ↔ d.CountsAs n := by
  obtain ⟨x, hrounded, hx⟩ := d.wholeNumber?_text
  rw [hx, CountsAs]
  split
  · rw [Option.some_inj, eq_comm]
  · constructor
    · intro h
      split at h
      · next hfinite => exact ⟨x, hrounded, hfinite, (Option.some.inj h).symm⟩
      · cases h
    · rintro ⟨y, hy, hfinite, rfl⟩
      obtain rfl := hrounded.unique hy
      rw [if_pos hfinite]

/-- Whether the whole part of the number survives: there is no point, or rounding keeps it. -/
def IsKept (d : DecimalText) : Prop := d.fraction = none ∨ KeepsWholePart d.value

/-- The number is below the middle between the greatest finite binary number and the next power of two. -/
def IsFinite (d : DecimalText) : Prop := |d.value| < 2 ^ 1024 - 2 ^ 970

instance (d : DecimalText) : Decidable d.IsFinite :=
  inferInstanceAs (Decidable (|d.value| < 2 ^ 1024 - 2 ^ 970))

/-- With an integer of 64 bits as its whole part, a number is finite. -/
theorem isFinite_of_isInt64 {d : DecimalText} (h : isInt64 (wholePart d.value) = true) :
    d.IsFinite := by
  obtain ⟨hlow, hhigh⟩ := isInt64_iff.1 h
  have hwhole : |(wholePart d.value : ℚ)| ≤ 2 ^ 63 := by
    rw [abs_le]
    exact ⟨by exact_mod_cast hlow, by exact_mod_cast hhigh.le⟩
  have hsmall : |d.value| < 2 ^ 970 := by
    calc |d.value| < |(wholePart d.value : ℚ)| + 1 := abs_lt_abs_wholePart_add_one d.value
      _ ≤ 2 ^ 64 := by linarith
      _ ≤ 2 ^ 970 := pow_le_pow_right₀ (by norm_num) (by norm_num)
  have hlimit : (2 : ℚ) ^ 970 ≤ 2 ^ 1024 - 2 ^ 970 := by
    rw [le_sub_iff_add_le, ← two_mul, ← pow_succ']
    exact pow_le_pow_right₀ (by norm_num) (by norm_num)
  exact hsmall.trans_le hlimit

/-- An integer that does not fit in 64 bits is large. -/
theorem large_of_not_isInt64 {d : DecimalText} (hfraction : d.fraction = none)
    (h : ¬isInt64 (wholePart d.value) = true) : 2 ^ 63 ≤ |d.value| := by
  rw [isInt64_iff, not_and_or, not_le, not_lt] at h
  rw [(integer_of_fraction_eq_none hfraction).1, le_abs]
  rcases h with h | h
  · right
    have hint : (2 : ℤ) ^ 63 ≤ -wholePart d.value := by omega
    exact_mod_cast hint
  · left
    exact_mod_cast h

/-- What is kept counts as its whole part. -/
theorem wholeNumber?_of_isKept {d : DecimalText} (h : d.IsKept) :
    wholeNumber? d.text =
      if d.IsFinite then some (clampInt64 (wholePart d.value)) else none := by
  obtain ⟨x, hrounded, hx⟩ := d.wholeNumber?_text
  have hfinite : |x| < 2 ^ 1024 ↔ d.IsFinite := hrounded.abs_lt_limit_iff
  rw [hx]
  split
  · next hinteger =>
    rw [if_pos (isFinite_of_isInt64 hinteger.2), clampInt64_of_isInt64 hinteger.2]
  · next hnot =>
    have hkeeps : KeepsWholePart d.value := by
      rcases h with hfraction | hkeeps
      · exact keepsWholePart_of_large (large_of_not_isInt64 hfraction fun hfits => hnot ⟨hfraction, hfits⟩)
      · exact hkeeps
    rw [hkeeps x hrounded]
    simp only [hfinite]

/-- A finite number counts as its whole part only if it is kept. -/
theorem isKept_iff {d : DecimalText} (h : d.IsFinite) :
    d.IsKept ↔ d.CountsAs (clampInt64 (wholePart d.value)) := by
  rw [← wholeNumber?_text_eq_some_iff]
  constructor
  · intro hkept
    rw [wholeNumber?_of_isKept hkept, if_pos h]
  · intro hwhole
    obtain ⟨x, hrounded, hx⟩ := d.wholeNumber?_text
    by_cases hfraction : d.fraction = none
    · exact .inl hfraction
    · right
      rw [hx, if_neg fun h => hfraction h.1, if_pos (hrounded.abs_lt_limit_iff.2 h)] at hwhole
      intro y hy
      rw [hy.unique hrounded]
      exact Option.some.inj hwhole

/-! ## Comparisons -/

theorem compareNumbers_iff {test : ℤ → ℤ → Bool} {value expected : Text} :
    Operator.compareNumbers test value expected = true ↔
      ∃ a b, wholeNumber? value = some a ∧ wholeNumber? expected = some b ∧ test a b = true := by
  rw [Operator.compareNumbers]
  cases wholeNumber? value <;> cases wholeNumber? expected <;> simp

theorem compareNumbers_text_iff (test : ℤ → ℤ → Bool) (s t : DecimalText) :
    Operator.compareNumbers test s.text t.text = true ↔
      ∃ a b, s.CountsAs a ∧ t.CountsAs b ∧ test a b = true := by
  simp only [compareNumbers_iff, wholeNumber?_text_eq_some_iff]

theorem compareNumbers_of_isKept (test : ℤ → ℤ → Bool) {s t : DecimalText} (hs : s.IsKept)
    (ht : t.IsKept) :
    Operator.compareNumbers test s.text t.text = true ↔
      s.IsFinite ∧ t.IsFinite ∧
        test (clampInt64 (wholePart s.value)) (clampInt64 (wholePart t.value)) = true := by
  rw [Operator.compareNumbers, wholeNumber?_of_isKept hs, wholeNumber?_of_isKept ht]
  by_cases hsfinite : s.IsFinite <;> by_cases htfinite : t.IsFinite <;> simp [hsfinite, htfinite]

/-- Each digit makes a number ten times as large, at most. -/
theorem ofDigitChars_lt {t : Text} (h : ∀ c ∈ t, c.isDigit = true) (n : ℕ) :
    Nat.ofDigitChars 10 t n < (n + 1) * 10 ^ t.length := by
  induction t generalizing n with
  | nil => simp
  | cons c t ih =>
    rw [List.forall_mem_cons] at h
    have hdigit : c.toNat - '0'.toNat ≤ 9 := by
      have hvalue := digitValue?_of_isDigit h.1
      rw [digitValue?, Option.filter_eq_some_iff, decide_eq_true_eq] at hvalue
      exact Nat.le_of_lt_succ hvalue.2
    rw [Nat.ofDigitChars_cons, List.length_cons, pow_succ']
    calc Nat.ofDigitChars 10 t (10 * n + (c.toNat - '0'.toNat))
        < (10 * n + (c.toNat - '0'.toNat) + 1) * 10 ^ t.length := ih h.2 _
      _ ≤ (10 * (n + 1)) * 10 ^ t.length := by
        gcongr
        omega
      _ = (n + 1) * (10 * 10 ^ t.length) := by ring

/-- A number of up to 15 digits is kept. -/
theorem isKept_of_length_digits {d : DecimalText} (h : d.digits.length ≤ 15) : d.IsKept := by
  have hnumber : d.number < 10 ^ 15 := by
    calc d.number < (0 + 1) * 10 ^ d.digits.length := ofDigitChars_lt d.isDigit 0
      _ ≤ 10 ^ 15 := by
        rw [zero_add, one_mul]
        exact pow_le_pow_right₀ (by norm_num) h
  have hplaces : d.places ≤ 15 := by
    unfold digits at h
    rw [List.length_append] at h
    unfold places
    omega
  have hnonneg : (0 : ℚ) ≤ d.number / 10 ^ d.places := by positivity
  refine .inr (keepsWholePart_of_digits hnumber hplaces ?_)
  unfold value
  split
  · rw [abs_neg, abs_of_nonneg hnonneg]
  · rw [abs_of_nonneg hnonneg]

end DecimalText

/-- **Numeric conditions compare what the numbers count as.** Where rounding keeps the whole parts of two
decimal numbers, these are compared: exactly in the range of 64 bits, and beyond it as the ends of the
range; a number that is not finite fails either test. Rounding keeps the whole part of a number without
a point, of one with up to 15 digits, of one that is a binary number, and of one beyond the range.
Between two such spellings of one number no comparison tells a difference. -/
theorem evaluate_decimals :
    (∀ s t : DecimalText,
      (Operator.atMost.evaluate s.text t.text = true ↔
        ∃ a b, s.CountsAs a ∧ t.CountsAs b ∧ a ≤ b) ∧
      (Operator.atLeast.evaluate s.text t.text = true ↔
        ∃ a b, s.CountsAs a ∧ t.CountsAs b ∧ b ≤ a)) ∧
    (∀ s t : DecimalText, s.IsKept → t.IsKept →
      (Operator.atMost.evaluate s.text t.text = true ↔
        s.IsFinite ∧ t.IsFinite ∧
          clampInt64 (wholePart s.value) ≤ clampInt64 (wholePart t.value)) ∧
      (Operator.atLeast.evaluate s.text t.text = true ↔
        s.IsFinite ∧ t.IsFinite ∧
          clampInt64 (wholePart t.value) ≤ clampInt64 (wholePart s.value))) ∧
    (∀ s t : DecimalText, s.IsKept → t.IsKept →
      isInt64 (wholePart s.value) = true → isInt64 (wholePart t.value) = true →
      (Operator.atMost.evaluate s.text t.text = true ↔ wholePart s.value ≤ wholePart t.value) ∧
      (Operator.atLeast.evaluate s.text t.text = true ↔ wholePart t.value ≤ wholePart s.value)) ∧
    (∀ d : DecimalText,
      d.fraction = none ∨ d.digits.length ≤ 15 ∨ IsBinary d.value ∨ 2 ^ 63 ≤ |d.value| → d.IsKept) ∧
    (∀ s t : DecimalText, s.IsKept → t.IsKept → s.value = t.value →
      ∀ op ∈ [Operator.atMost, Operator.atLeast], ∀ other,
        op.evaluate s.text other = op.evaluate t.text other ∧
          op.evaluate other s.text = op.evaluate other t.text) := by
  have hatMost {s t : DecimalText} (hs : s.IsKept) (ht : t.IsKept) :=
    DecimalText.compareNumbers_of_isKept (fun a b => a ≤ b) hs ht
  have hatLeast {s t : DecimalText} (hs : s.IsKept) (ht : t.IsKept) :=
    DecimalText.compareNumbers_of_isKept (fun a b => b ≤ a) hs ht
  simp only [decide_eq_true_eq] at hatMost hatLeast
  refine ⟨fun s t => ?_, fun s t hs ht => ⟨hatMost hs ht, hatLeast hs ht⟩,
    fun s t hs ht hsfits htfits => ?_, fun d hd => ?_, fun s t hs ht heq op hop other => ?_⟩
  · simp only [Operator.evaluate_atMost, Operator.evaluate_atLeast,
      DecimalText.compareNumbers_text_iff, decide_eq_true_eq, and_self]
  · have hsfinite := DecimalText.isFinite_of_isInt64 hsfits
    have htfinite := DecimalText.isFinite_of_isInt64 htfits
    rw [Operator.evaluate_atMost, Operator.evaluate_atLeast, hatMost hs ht, hatLeast hs ht,
      clampInt64_of_isInt64 hsfits, clampInt64_of_isInt64 htfits]
    exact ⟨by simp [hsfinite, htfinite], by simp [hsfinite, htfinite]⟩
  · rcases hd with hfraction | hdigits | hbinary | hlarge
    · exact .inl hfraction
    · exact DecimalText.isKept_of_length_digits hdigits
    · exact .inr (keepsWholePart_of_isBinary hbinary)
    · exact .inr (keepsWholePart_of_large hlarge)
  · have hfinite : s.IsFinite ↔ t.IsFinite := by rw [DecimalText.IsFinite, heq, DecimalText.IsFinite]
    have hwhole : wholeNumber? s.text = wholeNumber? t.text := by
      rw [DecimalText.wholeNumber?_of_isKept hs, DecimalText.wholeNumber?_of_isKept ht]
      simp only [hfinite, heq]
    simp only [List.mem_cons, List.not_mem_nil, or_false] at hop
    rcases hop with rfl | rfl <;>
      simp only [Operator.evaluate_atMost, Operator.evaluate_atLeast, Operator.compareNumbers, hwhole,
        and_self]

/-- A number with a fraction and blanks, and an integer with and without a point. -/
theorem evaluate_decimals_spaced :
    Operator.atMost.evaluate " 3.9\n".toList "+3".toList = true ∧
      ∀ other, Operator.atMost.evaluate "2021.0".toList other =
        Operator.atMost.evaluate "2021".toList other := by
  obtain ⟨-, -, hexact, hkept, hsame⟩ := evaluate_decimals
  let decimal : DecimalText :=
    ⟨" ".toList, [], "3".toList, some "9".toList, "\n".toList, by decide, by decide, by decide, by decide⟩
  let three : DecimalText :=
    ⟨[], ['+'], "3".toList, none, [], by decide, by decide, by decide, by decide⟩
  let pointed : DecimalText :=
    ⟨[], [], "2021".toList, some "0".toList, [], by decide, by decide, by decide, by decide⟩
  let plain : DecimalText :=
    ⟨[], [], "2021".toList, none, [], by decide, by decide, by decide, by decide⟩
  have hdecimal : wholePart decimal.value = 3 := by
    rw [DecimalText.wholePart_value]
    decide
  have hthree : wholePart three.value = 3 := by
    rw [DecimalText.wholePart_value]
    decide
  have hvalue : pointed.value = plain.value := by
    have hpointed : pointed.sign ≠ ['-'] ∧ pointed.number = 20210 ∧ pointed.places = 1 := by decide
    have hplain : plain.sign ≠ ['-'] ∧ plain.number = 2021 ∧ plain.places = 0 := by decide
    rw [DecimalText.value, if_neg hpointed.1, hpointed.2.1, hpointed.2.2, DecimalText.value,
      if_neg hplain.1, hplain.2.1, hplain.2.2]
    norm_num
  refine ⟨?_, fun other => ?_⟩
  · refine ((hexact decimal three (hkept _ (.inr (.inl (by decide)))) (hkept _ (.inl rfl)) ?_ ?_).1).2 ?_
    · rw [hdecimal]; decide
    · rw [hthree]; decide
    · rw [hdecimal, hthree]
  · exact (hsame pointed plain (hkept _ (.inr (.inl (by decide)))) (hkept _ (.inl rfl)) hvalue _
      List.mem_cons_self other).1

/-- Beyond the range of 64 bits two integers count as one, and behind a point an integer of more than 53
binary digits counts as another one. -/
theorem evaluate_decimals_rounded :
    let beyond : DecimalText := ⟨[], [], "9223372036854775808".toList, none, [],
      by decide, by decide, by decide, by decide⟩
    let last : DecimalText := ⟨[], [], "9223372036854775807".toList, none, [],
      by decide, by decide, by decide, by decide⟩
    let pointed : DecimalText := ⟨[], [], "9007199254740993".toList, some "0".toList, [],
      by decide, by decide, by decide, by decide⟩
    let before : DecimalText := ⟨[], [], "9007199254740992".toList, none, [],
      by decide, by decide, by decide, by decide⟩
    (Operator.atMost.evaluate beyond.text last.text = true ∧
      ¬ wholePart beyond.value ≤ wholePart last.value) ∧
    (Operator.atMost.evaluate pointed.text before.text = true ∧
      ¬ wholePart pointed.value ≤ wholePart before.value) := by
  intro beyond last pointed before
  have hbeyond : wholePart beyond.value = 9223372036854775808 := by
    rw [DecimalText.wholePart_value]
    decide
  have hlast : wholePart last.value = 9223372036854775807 := by
    rw [DecimalText.wholePart_value]
    decide
  have hpointed : wholePart pointed.value = 9007199254740993 := by
    rw [DecimalText.wholePart_value]
    decide
  have hbefore : wholePart before.value = 9007199254740992 := by
    rw [DecimalText.wholePart_value]
    decide
  rw [hbeyond, hlast, hpointed, hbefore]
  decide

end PubList.Template
