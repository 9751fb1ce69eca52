import PubList.Text.Blank
import PubList.Unicode.Lowercase

/-!
# Text in lower case

Every letter becomes its lower-case letter, with the two exceptions of Unicode's full mapping: a
dotted capital I becomes two characters, and a capital sigma at the end of a word takes its final
form.
-/

namespace PubList.Text

open PubList.Unicode

/-- Whether the first character that is not ignored for casing is a letter with case. -/
def meetsCased (t : Text) : Bool :=
  match t.dropWhile caseIgnorable.contains with
  | c :: _ => cased.contains c
  | [] => false

/-- The lower-case form of a capital sigma between two texts; the one before it is reversed. -/
def lowercaseSigma (reversedBefore after : Text) : Char :=
  if meetsCased reversedBefore && !meetsCased after then 'ς' else 'σ'

/-- Lower case of a text that follows the (reversed) text `reversedBefore`. -/
def lowercaseAfter (reversedBefore : Text) : Text → Text
  | [] => []
  | c :: t =>
    let lower : Text :=
      if c = 'Σ' then [lowercaseSigma reversedBefore t]
      else if c = 'İ' then ['i', Char.ofNat 0x307]
      else [lowercaseChar c]
    lower ++ lowercaseAfter (c :: reversedBefore) t

/-- The text in lower case. -/
def lowercase (t : Text) : Text := lowercaseAfter [] t

/-- A name as it is compared: without blanks around it and in lower case. -/
def normalize (t : Text) : Text := lowercase (trim t)

end PubList.Text
