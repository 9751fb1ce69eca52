import PubList.Text.Search

/-!
# Blank characters

Blank is what Unicode calls White_Space. Trimming and splitting into words go by it.
-/

namespace PubList.Text

/-- The characters with the property White_Space. -/
def isBlank (c : Char) : Bool :=
  let n := c.toNat
  (9 ≤ n && n ≤ 13) || n = 0x20 || n = 0x85 || n = 0xA0 || n = 0x1680 ||
    (0x2000 ≤ n && n ≤ 0x200A) || n = 0x2028 || n = 0x2029 || n = 0x202F || n = 0x205F || n = 0x3000

/-- Drops the characters that satisfy `p` from the front. -/
def trimStartWhere (p : Char → Bool) (t : Text) : Text := t.dropWhile p

/-- Drops the characters that satisfy `p` from the back. -/
def trimEndWhere (p : Char → Bool) (t : Text) : Text := (t.reverse.dropWhile p).reverse

/-- Drops the characters that satisfy `p` from both ends. -/
def trimWhere (p : Char → Bool) (t : Text) : Text := trimEndWhere p (trimStartWhere p t)

/-- Drops blank characters from both ends. -/
def trim (t : Text) : Text := trimWhere isBlank t

/-- The longest runs of characters that are not blank, from left to right. -/
def words (t : Text) : List Text := (splitWhere isBlank t).filter (· ≠ [])

end PubList.Text
