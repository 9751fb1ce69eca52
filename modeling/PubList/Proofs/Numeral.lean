import PubList.Number.Integer
import PubList.Proofs.Trimming

/-!
# Integers that are written and read

The decimal text of an integer is read back as the integer (`readInt64?_ofInt`), and blanks around a
text are all that trimming removes, so it leaves the text of an integer alone (`trim_ofInt`).

What is read as an integer is digits behind an optional sign (`Spells`, `readInt64?_eq_some_iff`,
`readUInt32?_eq_some_iff`), so it has no blanks either (`trim_of_readInt64?`).
-/

namespace PubList

namespace Text

theorem ofNat_ne_nil (n : Nat) : ofNat n ≠ [] := Nat.toDigits_ne_nil

theorem isDigit_of_mem_ofNat {n : Nat} {c : Char} (hc : c ∈ ofNat n) : c.isDigit = true :=
  Nat.isDigit_of_mem_toDigits (by decide) (by decide) hc

end Text

namespace Number

/-! ## Reading what is written -/

/-- An ASCII digit is read as its place among the digits. -/
theorem digitValue?_of_isDigit {c : Char} (h : c.isDigit = true) :
    digitValue? 10 c = some (c.toNat - '0'.toNat) := by
  simp only [Char.isDigit, Bool.and_eq_true, decide_eq_true_eq] at h
  have hlow : '0' ≤ c := h.1
  have hhigh : c ≤ '9' := h.2
  have hvalue : c.toNat - '0'.toNat < 10 := by
    have hnat : c.toNat ≤ '9'.toNat := hhigh
    have hnine : '9'.toNat = '0'.toNat + 9 := rfl
    omega
  have hfilter : (some (c.toNat - '0'.toNat)).filter (fun n => decide (n < 10)) =
      some (c.toNat - '0'.toNat) := Option.filter_some_pos (decide_eq_true hvalue)
  rw [digitValue?, if_pos ⟨hlow, hhigh⟩, hfilter]

theorem appendDigits?_of_isDigit {t : Text} (h : ∀ c ∈ t, c.isDigit = true) (n : Nat) :
    appendDigits? 10 n t = some (Nat.ofDigitChars 10 t n) := by
  induction t generalizing n with
  | nil => rfl
  | cons c t ih =>
    rw [List.forall_mem_cons] at h
    rw [appendDigits?, digitValue?_of_isDigit h.1, Option.bind_some, ih h.2]
    rfl

/-- The digits of a number are read back as the number. -/
theorem readNat?_ofNat (n : Nat) : readNat? 10 (Text.ofNat n) = some n := by
  have hvalue : Nat.ofDigitChars 10 (Text.ofNat n) 0 = n :=
    Nat.ofDigitChars_toDigits (by decide) (by decide)
  rw [readNat?, if_neg (Text.ofNat_ne_nil n),
    appendDigits?_of_isDigit fun c => Text.isDigit_of_mem_ofNat, hvalue]

/-- One decimal digit or more. -/
def IsDigits (t : Text) : Prop := t ≠ [] ∧ ∀ c ∈ t, c.isDigit = true

theorem isDigits_ofNat (n : Nat) : IsDigits (Text.ofNat n) :=
  ⟨Text.ofNat_ne_nil n, fun _ => Text.isDigit_of_mem_ofNat⟩

/-- A number without a sign begins with a digit. -/
theorem readInt?_of_isDigits {t : Text} (h : IsDigits t) :
    readInt? t = (readNat? 10 t).map fun n => (n : Int) := by
  have hdigit {c : Char} {s : Text} (hs : t = c :: s) : c.isDigit = true :=
    h.2 c (hs ▸ List.mem_cons_self)
  unfold readInt?
  split
  · exact absurd (hdigit rfl) (by decide)
  · exact absurd (hdigit rfl) (by decide)
  · rfl

/-- The text of an integer is read back as the integer. -/
theorem readInt?_ofInt (n : Int) : readInt? (Text.ofInt n) = some n := by
  cases n with
  | negSucc n =>
    rw [Text.ofInt, readInt?, readNat?_ofNat]
    rfl
  | ofNat n =>
    rw [Text.ofInt, readInt?_of_isDigits (isDigits_ofNat n), readNat?_ofNat]
    rfl

theorem readInt64?_ofInt {n : Int} (h : isInt64 n = true) : readInt64? (Text.ofInt n) = some n := by
  rw [readInt64?, readInt?_ofInt, Option.filter_some_pos h]

end Number

namespace Text

/-! ## Blanks -/

theorem isBlank_of_isDigit {c : Char} (h : c.isDigit = true) : isBlank c = false := by
  simp only [Char.isDigit, Bool.and_eq_true, decide_eq_true_eq] at h
  have hlow : 48 ≤ c.toNat := h.1
  have hhigh : c.toNat ≤ 57 := h.2
  simp only [isBlank, Bool.or_eq_false_iff, Bool.and_eq_false_iff, decide_eq_false_iff_not]
  omega

/-- The text of an integer has no blanks. -/
theorem isBlank_of_mem_ofInt {n : Int} {c : Char} (hc : c ∈ ofInt n) : isBlank c = false := by
  cases n with
  | ofNat n => exact isBlank_of_isDigit (isDigit_of_mem_ofNat hc)
  | negSucc n =>
    rcases List.mem_cons.1 hc with rfl | hc
    · decide
    · exact isBlank_of_isDigit (isDigit_of_mem_ofNat hc)

theorem trim_ofInt (n : Int) : trim (ofInt n) = ofInt n :=
  trimWhere_eq_self fun _ => isBlank_of_mem_ofInt

end Text

namespace Number

/-! ## What is read -/

/-- Only ASCII digits are digits in base ten: letters stand for ten and more. -/
theorem isDigit_of_digitValue? {c : Char} {n : Nat} (h : digitValue? 10 c = some n) :
    c.isDigit = true := by
  simp only [digitValue?, Option.filter_eq_some_iff, decide_eq_true_eq] at h
  obtain ⟨hvalue, hlt⟩ := h
  split at hvalue
  · next hdigit =>
    simp only [Char.isDigit, Bool.and_eq_true, decide_eq_true_eq]
    exact hdigit
  · split at hvalue
    · cases hvalue
      omega
    · split at hvalue
      · cases hvalue
        omega
      · cases hvalue

theorem isDigit_of_mem_of_appendDigits? {t : Text} {m n : Nat}
    (h : appendDigits? 10 m t = some n) {c : Char} (hc : c ∈ t) : c.isDigit = true := by
  induction t generalizing m with
  | nil => cases hc
  | cons d t ih =>
    rw [appendDigits?, Option.bind_eq_some_iff] at h
    obtain ⟨value, hvalue, hrest⟩ := h
    rcases List.mem_cons.1 hc with rfl | hc
    · exact isDigit_of_digitValue? hvalue
    · exact ih hrest hc

theorem isDigit_of_mem_of_readNat? {t : Text} {n : Nat} (h : readNat? 10 t = some n) {c : Char}
    (hc : c ∈ t) : c.isDigit = true := by
  rw [readNat?] at h
  split at h
  · cases h
  · exact isDigit_of_mem_of_appendDigits? h hc

/-- What is read as a natural number is digits, and they are read as their value. -/
theorem readNat?_eq_some_iff {t : Text} {n : Nat} :
    readNat? 10 t = some n ↔ IsDigits t ∧ Nat.ofDigitChars 10 t 0 = n := by
  have hread (h : IsDigits t) : readNat? 10 t = some (Nat.ofDigitChars 10 t 0) := by
    rw [readNat?, if_neg h.1, appendDigits?_of_isDigit h.2]
  constructor
  · intro h
    have hne : t ≠ [] := by
      rintro rfl
      cases h
    have hdigits : IsDigits t := ⟨hne, fun _ => isDigit_of_mem_of_readNat? h⟩
    rw [hread hdigits, Option.some_inj] at h
    exact ⟨hdigits, h⟩
  · rintro ⟨h, rfl⟩
    exact hread h

/-- The spellings of an integer: digits of its value, behind a sign or none. Zeros in front of the digits
and a plus sign make no difference, and zero may have a minus sign. -/
inductive Spells : Text → Int → Prop
  | unsigned {t : Text} (h : IsDigits t) : Spells t (Nat.ofDigitChars 10 t 0 : Nat)
  | plus {t : Text} (h : IsDigits t) : Spells ('+' :: t) (Nat.ofDigitChars 10 t 0 : Nat)
  | minus {t : Text} (h : IsDigits t) : Spells ('-' :: t) (-(Nat.ofDigitChars 10 t 0 : Nat))

/-- What is read as an integer is its spellings. -/
theorem readInt?_eq_some_iff {t : Text} {n : Int} : readInt? t = some n ↔ Spells t n := by
  constructor
  · intro h
    have hdigits {s : Text} {f : Int → Int} (hread : (readNat? 10 s : Option Int).map f = some n) :
        IsDigits s ∧ f (Nat.ofDigitChars 10 s 0 : Nat) = n := by
      obtain ⟨value, hvalue, rfl⟩ := Option.map_eq_some_iff.1 hread
      obtain ⟨m, hm, heq⟩ := Option.bind_eq_some_iff.1 hvalue
      cases heq
      obtain ⟨hs, rfl⟩ := readNat?_eq_some_iff.1 hm
      exact ⟨hs, rfl⟩
    unfold readInt? at h
    split at h <;> obtain ⟨hs, rfl⟩ := hdigits h
    · exact .minus hs
    · exact .plus hs
    · exact .unsigned hs
  · have hread {s : Text} (hs : IsDigits s) : readNat? 10 s = some (Nat.ofDigitChars 10 s 0) :=
      readNat?_eq_some_iff.2 ⟨hs, rfl⟩
    rintro (hs | hs | hs)
    · rw [readInt?_of_isDigits hs, hread hs]
      rfl
    · rw [readInt?, hread hs]
      rfl
    · rw [readInt?, hread hs]
      rfl

theorem readInt64?_eq_some_iff {t : Text} {n : Int} :
    readInt64? t = some n ↔ Spells t n ∧ isInt64 n = true := by
  rw [readInt64?, Option.filter_eq_some_iff, readInt?_eq_some_iff]

/-- What is read as a number below `2 ^ 32` is its spellings without a minus sign. -/
theorem readUInt32?_eq_some_iff {t : Text} {n : Nat} :
    readUInt32? t = some n ↔ Spells t n ∧ t.head? ≠ some '-' ∧ n < 4294967296 := by
  simp only [readUInt32?, Option.filter_eq_some_iff, decide_eq_true_eq]
  constructor
  · rintro ⟨hread, hlt⟩
    split at hread <;> obtain ⟨hdigits, rfl⟩ := readNat?_eq_some_iff.1 hread
    · exact ⟨.plus hdigits, by simp, hlt⟩
    · refine ⟨.unsigned hdigits, fun hhead => ?_, hlt⟩
      exact absurd (hdigits.2 '-' (List.mem_of_mem_head? hhead)) (by decide)
  · rintro ⟨hspells, hhead, hlt⟩
    refine ⟨?_, hlt⟩
    generalize hvalue : (n : Int) = value at hspells
    cases hspells with
    | unsigned hdigits =>
      cases hvalue
      split
      · exact absurd (hdigits.2 '+' List.mem_cons_self) (by decide)
      · exact readNat?_eq_some_iff.2 ⟨hdigits, rfl⟩
    | plus hdigits =>
      cases hvalue
      exact readNat?_eq_some_iff.2 ⟨hdigits, rfl⟩
    | minus => exact absurd rfl hhead

/-- What begins with neither a digit nor a sign is no integer. -/
theorem not_spells_cons {c : Char} (hdigit : c.isDigit = false) (hplus : c ≠ '+') (hminus : c ≠ '-')
    (t : Text) (n : Int) : ¬ Spells (c :: t) n := by
  intro h
  cases h with
  | unsigned h => exact absurd (h.2 c List.mem_cons_self) (by simp [hdigit])
  | plus => exact hplus rfl
  | minus => exact hminus rfl

/-- A text that is read as an integer has no blanks. -/
theorem isBlank_of_mem_of_readInt? {t : Text} {n : Int} (h : readInt? t = some n) {c : Char}
    (hc : c ∈ t) : Text.isBlank c = false := by
  have hdigits {s : Text} (hs : IsDigits s) (hc : c ∈ s) : Text.isBlank c = false :=
    Text.isBlank_of_isDigit (hs.2 c hc)
  rcases readInt?_eq_some_iff.1 h with hs | hs | hs
  · exact hdigits hs hc
  all_goals
    rcases List.mem_cons.1 hc with rfl | hc
    · decide
    · exact hdigits hs hc

theorem trim_of_readInt64? {t : Text} {n : Int} (h : readInt64? t = some n) : Text.trim t = t :=
  Text.trimWhere_eq_self fun _ => isBlank_of_mem_of_readInt? (Option.filter_eq_some_iff.1 h).1

end Number

end PubList
