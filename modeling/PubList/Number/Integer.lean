import PubList.Text.Basic

/-!
# Integers written in digits

Reading of whole numbers: digits in a base, an optional sign, and the ranges of 64-bit and
32-bit integers. A number that falls out of its range is not read.
-/

namespace PubList.Number

/-- The value of an ASCII letter or digit as a digit in the given base. -/
def digitValue? (base : Nat) (c : Char) : Option Nat :=
  let n := c.toNat
  let value :=
    if '0' ≤ c ∧ c ≤ '9' then some (n - '0'.toNat)
    else if 'a' ≤ c ∧ c ≤ 'z' then some (n - 'a'.toNat + 10)
    else if 'A' ≤ c ∧ c ≤ 'Z' then some (n - 'A'.toNat + 10)
    else none
  value.filter (· < base)

/-- Continues a number with the digits of a text. -/
def appendDigits? (base n : Nat) : Text → Option Nat
  | [] => some n
  | c :: t => (digitValue? base c).bind fun d => appendDigits? base (base * n + d) t

/-- The number that a text of digits denotes; there is at least one digit. -/
def readNat? (base : Nat) (t : Text) : Option Nat :=
  if t = [] then none else appendDigits? base 0 t

/-- The character with the code point that a text of hexadecimal digits gives, if there is one. -/
def readCodePoint? (digits : Text) : Option Char := do
  let n ← readNat? 16 digits
  if (0xD800 ≤ n ∧ n ≤ 0xDFFF) ∨ 0x10FFFF < n then none else some (Char.ofNat n)

/-- A whole number in decimal digits after an optional sign. -/
def readInt? : Text → Option Int
  | '-' :: t => (readNat? 10 t).map fun n => -(n : Int)
  | '+' :: t => (readNat? 10 t).map fun n => (n : Int)
  | t => (readNat? 10 t).map fun n => (n : Int)

/-- The least integer of 64 bits with a sign, `-2 ^ 63`. -/
def int64Min : Int := -9223372036854775808

/-- The greatest one, `2 ^ 63 - 1`. -/
def int64Max : Int := 9223372036854775807

/-- Whether an integer fits in 64 bits with a sign. -/
def isInt64 (n : Int) : Bool := decide (int64Min ≤ n) && decide (n ≤ int64Max)

/-- Whether a natural number fits in 64 bits without a sign, that is, below `2 ^ 64`. -/
def isUInt64 (n : Nat) : Bool := decide (n < 18446744073709551616)

/-- A whole number that fits in 64 bits with a sign. -/
def readInt64? (t : Text) : Option Int := (readInt? t).filter isInt64

/-- A natural number below `2 ^ 32`, after an optional plus sign. -/
def readUInt32? (t : Text) : Option Nat :=
  let digits := match t with
    | '+' :: t => t
    | t => t
  (readNat? 10 digits).filter (· < 4294967296)

/-- The integer of 64 bits nearest to a given integer. -/
def clampInt64 (n : Int) : Int := max int64Min (min n int64Max)

theorem clampInt64_of_isInt64 {n : Int} (h : isInt64 n = true) : clampInt64 n = n := by
  simp only [isInt64, Bool.and_eq_true, decide_eq_true_eq] at h
  simp only [clampInt64]
  omega

end PubList.Number
