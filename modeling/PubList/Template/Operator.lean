import PubList.Number.Binary64
import PubList.Pattern.Basic
import PubList.Text.Blank

/-!
# Comparisons

The five tests that a condition can make on the value of a field: equality of texts, the order of
whole numbers, and a pattern.
-/

namespace PubList.Template

/-- A test on a value. -/
inductive Operator where
  | equal
  | notEqual
  | atMost
  | atLeast
  /-- The value contains a match of a pattern. -/
  | fits
  deriving DecidableEq, Repr

/-- The whole part of the number that a text denotes, as an integer of 64 bits. A number that is
written without point and exponent and fits is exact; any other one is rounded to a binary
floating-point number first, and then clamped. -/
def wholeNumber? (t : Text) : Option Int :=
  let t := Text.trim t
  match Number.readInt64? t with
  | some n => some n
  | none => do
    let decimal ← Number.Decimal.read? t
    let number ← Number.Binary64.ofDecimal? decimal
    return Number.clampInt64 number.truncate

namespace Operator

def symbol : Operator → Text
  | equal => "==".toList
  | notEqual => "!=".toList
  | atMost => "<=".toList
  | atLeast => ">=".toList
  | fits => "~".toList

/-- The operators in the order in which a condition is tried for them. -/
def all : List Operator := [atMost, atLeast, equal, notEqual, fits]

/-- The operator at the start of a text, and what follows it. -/
def split? (t : Text) : Option (Operator × Text) :=
  all.findSome? fun op => (Text.dropMark? op.symbol t).map (op, ·)

/-- Whether two texts denote numbers that compare as `test` says. -/
def compareNumbers (test : Int → Int → Bool) (value expected : Text) : Bool :=
  match wholeNumber? value, wholeNumber? expected with
  | some a, some b => test a b
  | _, _ => false

/-- Whether a value passes a test against the expected text, where `compile` makes a pattern of a
text and `isMatch` looks for it in a value. A text that is no pattern fits no value. -/
def evaluateWith {R : Type} (compile : Text → Option R) (isMatch : R → Text → Bool) (op : Operator)
    (value expected : Text) : Bool :=
  match op with
  | equal => value = expected
  | notEqual => value ≠ expected
  | atMost => compareNumbers (fun a b => a ≤ b) value expected
  | atLeast => compareNumbers (fun a b => b ≤ a) value expected
  | fits => (compile expected).any (isMatch · value)

/-- Whether a value passes a test against the expected text. -/
def evaluate (op : Operator) (value expected : Text) : Bool :=
  op.evaluateWith Pattern.compile? Pattern.isMatch value expected

theorem evaluate_atMost (value expected : Text) :
    atMost.evaluate value expected = compareNumbers (fun a b => a ≤ b) value expected := rfl

theorem evaluate_atLeast (value expected : Text) :
    atLeast.evaluate value expected = compareNumbers (fun a b => b ≤ a) value expected := rfl

end Operator

end PubList.Template
