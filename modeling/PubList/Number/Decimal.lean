import PubList.Number.Integer

/-!
# Decimal numbers

A decimal number is a sign, a natural number and a power of ten. Reading one takes digits with at
most one point among them and an optional exponent, and at least one digit in all.
-/

namespace PubList.Number

/-- The number `± digits * 10 ^ exponent`. -/
structure Decimal where
  negative : Bool
  digits : Nat
  exponent : Int
  deriving DecidableEq, Repr

/-- The digits at the start of a text, and what follows them. -/
def spanDigits (t : Text) : Text × Text := (t.takeWhile Char.isDigit, t.dropWhile Char.isDigit)

/-- Splits an optional sign from the start of a text; the flag says that it is a minus sign. -/
def splitSign : Text → Bool × Text
  | '-' :: t => (true, t)
  | '+' :: t => (false, t)
  | t => (false, t)

namespace Decimal

/-- The exponent that ends a number: nothing, or a letter E, an optional sign and digits. -/
def readExponent? : Text → Option Int
  | [] => some 0
  | c :: t =>
    if c = 'e' ∨ c = 'E' then
      let (negative, digits) := splitSign t
      (readNat? 10 digits).map fun n => if negative then -(n : Int) else n
    else none

/-- Reads a number without a sign. -/
def readUnsigned? (negative : Bool) (t : Text) : Option Decimal :=
  let (whole, rest) := spanDigits t
  let (fraction, rest) := match rest with
    | '.' :: rest => spanDigits rest
    | rest => ([], rest)
  do
    let digits ← readNat? 10 (whole ++ fraction)
    let exponent ← readExponent? rest
    return ⟨negative, digits, exponent - fraction.length⟩

/-- Reads a decimal number: an optional sign, digits with an optional point, and an optional
exponent. -/
def read? (t : Text) : Option Decimal :=
  let (negative, rest) := splitSign t
  readUnsigned? negative rest

end Decimal

end PubList.Number
