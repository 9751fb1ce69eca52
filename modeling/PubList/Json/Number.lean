import PubList.Data.Basic

/-!
# JSON numbers

An integer that fits in 64 bits is kept. Any other number becomes a binary one in two roundings:
its first digits, as many as fit in 64 bits, are rounded, and the result is multiplied or divided by
a rounded power of ten. A number that is too large for this is no number.
-/

namespace PubList.Json

open PubList.Number

/-- Takes digits while the number stays below `2 ^ 64`: the number, and how many were taken. -/
def takeDigits (n : Nat) : Text → Nat × Nat
  | [] => (n, 0)
  | c :: t =>
    let next := 10 * n + (digitValue? 10 c).getD 0
    if isUInt64 next then
      let (value, count) := takeDigits next t
      (value, count + 1)
    else (n, 0)

/-- The power of ten as a binary number. -/
def powerOfTen (k : Nat) : Magnitude := (Magnitude.ofDecimal? 1 k).getD .zero

/-- Divides by a power of ten, in steps of at most 308 digits, until nothing is left. -/
def divideByPower (m : Magnitude) (k : Nat) : Magnitude :=
  if k ≤ 308 then (m.div? (powerOfTen k)).getD .zero
  else if m.mantissa = 0 then m
  else divideByPower ((m.div? (powerOfTen 308)).getD .zero) (k - 308)
termination_by k

/-- The magnitude of `digits * 10 ^ exponent` in two roundings. -/
def scale? (digits : Nat) (exponent : Int) : Option Magnitude := do
  let m ← Magnitude.ofRatio? digits 1
  if exponent < 0 then return divideByPower m (-exponent).toNat
  else if exponent ≤ 308 then m.mul? (powerOfTen exponent.toNat)
  else if m.mantissa = 0 then return m
  else none

/-- The parts of a number as it is written: digits, digits after a point, and an exponent. -/
structure Numeral where
  whole : Text
  fraction : Option Text
  /-- Whether the exponent has a minus sign, and its digits. -/
  exponent : Option (Bool × Text)

namespace Numeral

/-- Reads the digits of a whole number: there is one, and the first one is not an idle zero. -/
def readWhole? (t : Text) : Option (Text × Text) :=
  match spanDigits t with
  | ([], _) => none
  | ('0' :: _ :: _, _) => none
  | (whole, rest) => some (whole, rest)

def readFraction? : Text → Option (Option Text × Text)
  | '.' :: t =>
    match spanDigits t with
    | ([], _) => none
    | (fraction, rest) => some (some fraction, rest)
  | t => some (none, t)

def readExponent? : Text → Option (Option (Bool × Text))
  | [] => some none
  | c :: t =>
    if c = 'e' ∨ c = 'E' then
      match splitSign t with
      | (negative, digits) =>
        if digits ≠ [] ∧ digits.all Char.isDigit then some (some (negative, digits)) else none
    else none

/-- Splits a number without its sign. -/
def read? (t : Text) : Option Numeral := do
  let (whole, rest) ← readWhole? t
  let (fraction, rest) ← readFraction? rest
  let exponent ← readExponent? rest
  return ⟨whole, fraction, exponent⟩

/-- The magnitude of a number that is not a short integer. An exponent that does not fit in 32 bits
is not computed with. -/
def magnitude? (n : Numeral) : Option Magnitude :=
  let (value, used) := takeDigits 0 n.whole
  let left : Int := n.whole.length - used
  let (value, used) := takeDigits value (n.fraction.getD [])
  let start := left - used
  match n.exponent with
  | none => scale? value start
  | some (negative, digits) =>
    let size := (readNat? 10 digits).getD 0
    if size < 2147483648 then scale? value (if negative then start - size else start + size)
    else if value = 0 ∨ negative then some .zero
    else none

/-- The number with the given sign. Zero with a minus sign is a binary number. -/
def toScalar? (negative : Bool) (n : Numeral) : Option Scalar :=
  let value := (readNat? 10 n.whole).getD 0
  let integer : Int := if negative then -(value : Int) else value
  let short := n.fraction.isNone && n.exponent.isNone && isUInt64 value
  if short && !negative then some (.integer integer)
  else if short && value != 0 && isInt64 integer then some (.integer integer)
  else n.magnitude?.map fun m => .real ⟨negative, m⟩

end Numeral

/-- Reads a JSON number. -/
def readNumber? (t : Text) : Option Scalar :=
  match t with
  | '-' :: t => (Numeral.read? t).bind (Numeral.toScalar? true)
  | t => (Numeral.read? t).bind (Numeral.toScalar? false)

end PubList.Json
