import PubList.Number.Binary64

/-!
# The shortest decimal digits of a binary number

A binary number is written with the fewest digits that read back to it, and of those with the
digits nearest to it. Up to seventeen digits are tried, from one on: on the grid of decimal
numbers with so many digits only the two neighbours of the number can be the answer.
-/

namespace PubList.Number

namespace Magnitude

/-- The ratio `a / b` divided by `10 ^ e`, as a ratio of natural numbers. -/
def scaleRatioTen (a b : Nat) (e : Int) : Nat × Nat :=
  if 0 ≤ e then (a, b * Nat.pow 10 e.toNat) else (a * Nat.pow 10 (-e).toNat, b)

/-- How many digits stand before the decimal point of the ratio `a / b`; zero or less where the
first digits after the point are zeros. -/
def pointPosition (a b : Nat) : Int :=
  let guess : Int := (Text.ofNat a).length - (Text.ofNat b).length
  let (c, d) := scaleRatioTen a b guess
  if d ≤ c then guess + 1 else guess

/-- Whether `candidate * 10 ^ e` reads back to the magnitude: it lies between the midpoints to the
magnitudes below and above, or on a midpoint if the mantissa is even. Below a power of two the next
magnitude is half as far. -/
def readsBack (m : Magnitude) (candidate : Nat) (e : Int) : Bool :=
  let (a, b) := scaleRatioTen candidate 1 (-e)
  let (a, b) := scaleRatio a b (m.exponent - 2)
  let narrow := m.mantissa = Nat.pow 2 52 ∧ m.exponent > -1074
  let low := (4 * m.mantissa - (if narrow then 1 else 2)) * b
  let high := (4 * m.mantissa + 2) * b
  if m.mantissa % 2 = 0 then low ≤ a ∧ a ≤ high else low < a ∧ a < high

/-- The digits on one grid that read back to the magnitude, the nearer of two. -/
def onGrid? (m : Magnitude) (e : Int) : Option Nat :=
  let (a, b) := m.toRatio
  let (c, d) := scaleRatioTen a b e
  let below := c / d
  let r := c % d
  let belowOk := m.readsBack below e && below != 0
  let aboveOk := m.readsBack (below + 1) e
  if belowOk && aboveOk then
    some (if 2 * r < d ∨ (2 * r = d ∧ below % 2 = 0) then below else below + 1)
  else if belowOk then some below
  else if aboveOk then some (below + 1)
  else none

/-- The first grid that holds a number that reads back, from `n` digits on. -/
def findGrid (m : Magnitude) (point : Int) : Nat → Nat → Nat × Int
  | _, 0 => (0, 0)
  | n, tries + 1 =>
    match m.onGrid? (point - n) with
    | some digits => (digits, point - n)
    | none => findGrid m point (n + 1) tries

/-- The shortest digits of a magnitude and the power of ten of the last one. -/
def shortest (m : Magnitude) : Nat × Int :=
  let (a, b) := m.toRatio
  if m.mantissa = 0 then (0, 0) else m.findGrid (pointPosition a b) 1 17

end Magnitude

namespace Binary64

/-- Drops the zeros at the end of digits. -/
def dropZeros (digits : Text) : Text := (digits.reverse.dropWhile (· = '0')).reverse

/-- A number in text: its shortest digits, with a point among or after them while it stands at
most sixteen digits to the right and at most four zeros to the left of the first digit, and with an
exponent otherwise. -/
def toText (x : Binary64) : Text :=
  let sign : Text := if x.negative then ['-'] else []
  let (n, e) := x.magnitude.shortest
  if n = 0 then sign ++ "0.0".toList
  else
    let all := Text.ofNat n
    let digits := dropZeros all
    let point : Int := all.length + e
    let count : Int := digits.length
    let body : Text :=
      if 0 < point ∧ point ≤ 16 then
        if count ≤ point then
          digits ++ List.replicate (point - count).toNat '0' ++ ".0".toList
        else digits.take point.toNat ++ '.' :: digits.drop point.toNat
      else if -5 < point ∧ point ≤ 0 then
        "0.".toList ++ List.replicate (-point).toNat '0' ++ digits
      else
        let mantissa := match digits with
          | [d] => [d]
          | d :: rest => d :: '.' :: rest
          | [] => []
        let exponent := point - 1
        let mark : Text := if exponent < 0 then "e-".toList else "e+".toList
        mantissa ++ mark ++ Text.ofNat exponent.natAbs
    sign ++ body

end Binary64

end PubList.Number
