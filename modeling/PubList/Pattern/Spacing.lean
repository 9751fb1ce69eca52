import PubList.Number.Integer
import PubList.Text.Blank

/-!
# Spacing in patterns

Where the flag for extended patterns is set, blank characters and comments can stand between any
two parts of a pattern, also inside numbers, escapes and names. A comment runs from `#` to the end
of the line.
-/

namespace PubList.Pattern

/-- Drops blank characters and comments; `comment` tells whether the text begins inside one. -/
def dropComments (comment : Bool) : Text → Text
  | [] => []
  | c :: t =>
    if comment then dropComments (c ≠ '\n') t
    else if Text.isBlank c then dropComments false t
    else if c = '#' then dropComments true t
    else c :: t

/-- Drops the spacing in front of a text. -/
def dropSpacing (extended : Bool) (t : Text) : Text :=
  if extended then dropComments false t else t

/-- The character after a hyphen in a class, where a blank and the sign of a comment are passed
over but the comment itself is not. -/
def peek? (extended : Bool) (t : Text) : Option Char :=
  if extended then
    match t.dropWhile Text.isBlank with
    | '#' :: t => (t.dropWhile Text.isBlank).head?
    | t => t.head?
  else t.head?

/-- The characters up to a closing brace without the spacing between them, and what follows the
brace. -/
def readBraced? (extended comment : Bool) : Text → Option (Text × Text)
  | [] => none
  | c :: t =>
    if comment then readBraced? extended (c ≠ '\n') t
    else if extended && Text.isBlank c then readBraced? extended false t
    else if extended && c = '#' then readBraced? extended true t
    else if c = '}' then some ([], t)
    else (readBraced? extended false t).map fun (content, rest) => (c :: content, rest)

/-- Whether a character is a digit from `0` to `9`. -/
def isDigit (c : Char) : Bool := '0' ≤ c && c ≤ '9'

/-- The digits at the start of an extended text, and what follows them and the spacing. -/
def spanSpacedDigits (comment : Bool) : Text → Text × Text
  | [] => ([], [])
  | c :: t =>
    if comment then spanSpacedDigits (c ≠ '\n') t
    else if Text.isBlank c then spanSpacedDigits false t
    else if c = '#' then spanSpacedDigits true t
    else if isDigit c then
      let (digits, rest) := spanSpacedDigits false t
      (c :: digits, rest)
    else ([], c :: t)

/-- A decimal number of 32 bits between blanks, and what follows it. -/
def readDecimal? (extended : Bool) (t : Text) : Option (Nat × Text) :=
  let t := t.dropWhile Text.isBlank
  let (digits, rest) :=
    if extended then spanSpacedDigits false t
    else (t.takeWhile isDigit, (t.dropWhile isDigit).dropWhile Text.isBlank)
  ((Number.readNat? 10 digits).filter (· < 4294967296)).map fun n => (n, rest)

end PubList.Pattern
