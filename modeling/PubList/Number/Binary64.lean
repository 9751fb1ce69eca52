import PubList.Number.Decimal

/-!
# Binary floating point of 64 bits

The magnitude of a finite number is `mantissa * 2 ^ exponent` with a mantissa below `2 ^ 53` and an
exponent of at least `-1074`. A ratio of natural numbers is rounded to the nearest magnitude, a tie
to the even mantissa; all arithmetic is that of natural numbers.
-/

namespace PubList.Number

/-- The quotient of two natural numbers rounded to the nearest, a tie to the even one. -/
def divToNearest (a b : Nat) : Nat :=
  let q := a / b
  let r := a % b
  if 2 * r > b ∨ (2 * r = b ∧ q % 2 = 1) then q + 1 else q

/-- The magnitude `mantissa * 2 ^ exponent` of a binary floating-point number. -/
structure Magnitude where
  mantissa : Nat
  exponent : Int
  deriving DecidableEq, Repr

namespace Magnitude

def zero : Magnitude := ⟨0, -1074⟩

/-- The ratio `a / b` divided by `2 ^ e`, as a ratio of natural numbers. -/
def scaleRatio (a b : Nat) (e : Int) : Nat × Nat :=
  if 0 ≤ e then (a, b * Nat.pow 2 e.toNat) else (a * Nat.pow 2 (-e).toNat, b)

/-- The nearest magnitude to the ratio `a / b`; none where it exceeds the largest finite one. -/
def ofRatio? (a b : Nat) : Option Magnitude :=
  if a = 0 then some zero
  else
    let guess : Int := (Nat.log2 a : Int) - Nat.log2 b - 52
    let (c, d) := scaleRatio a b guess
    let exponent := max (-1074) (if c / d < Nat.pow 2 52 then guess - 1 else guess)
    let (c, d) := scaleRatio a b exponent
    let mantissa := divToNearest c d
    let m : Magnitude :=
      if mantissa = Nat.pow 2 53 then ⟨Nat.pow 2 52, exponent + 1⟩ else ⟨mantissa, exponent⟩
    if m.exponent > 971 then none else some m

/-- The magnitude as a ratio of natural numbers. -/
def toRatio (m : Magnitude) : Nat × Nat := scaleRatio m.mantissa 1 (-m.exponent)

/-- The nearest magnitude to `digits * 10 ^ exponent`. Far outside the finite range the powers of
ten are not computed. -/
def ofDecimal? (digits : Nat) (exponent : Int) : Option Magnitude :=
  let size : Int := (Text.ofNat digits).length + exponent
  if digits = 0 ∨ size < -400 then some zero
  else if size > 400 then none
  else if 0 ≤ exponent then ofRatio? (digits * Nat.pow 10 exponent.toNat) 1
  else ofRatio? digits (Nat.pow 10 (-exponent).toNat)

/-- The rounded product of two magnitudes. -/
def mul? (m n : Magnitude) : Option Magnitude :=
  let (a, b) := m.toRatio
  let (c, d) := n.toRatio
  ofRatio? (a * c) (b * d)

/-- The rounded quotient of two magnitudes. -/
def div? (m n : Magnitude) : Option Magnitude :=
  let (a, b) := m.toRatio
  let (c, d) := n.toRatio
  ofRatio? (a * d) (b * c)

/-- The whole part of a magnitude. -/
def floor (m : Magnitude) : Nat :=
  let (a, b) := m.toRatio
  a / b

end Magnitude

/-- A finite binary floating-point number; zero has a sign too. -/
structure Binary64 where
  negative : Bool
  magnitude : Magnitude
  deriving DecidableEq, Repr

namespace Binary64

/-- The nearest number to a decimal number, unless it is too large. -/
def ofDecimal? (d : Decimal) : Option Binary64 :=
  (Magnitude.ofDecimal? d.digits d.exponent).map fun m => ⟨d.negative, m⟩

/-- The number without its fraction. -/
def truncate (x : Binary64) : Int :=
  if x.negative then -(x.magnitude.floor : Int) else x.magnitude.floor

end Binary64

end PubList.Number
