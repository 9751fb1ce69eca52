import PubList.Text.Search

/-!
# Characters of YAML

Which characters may stand in a YAML text, which of them end a line, and which separate words. The
end of the text counts as the end of a line.
-/

namespace PubList.Yaml

/-- A character that ends a line. -/
def isBreak (c : Char) : Bool :=
  c = '\n' || c = '\r' || c.toNat = 0x85 || c.toNat = 0x2028 || c.toNat = 0x2029

/-- A blank inside a line. -/
def isSpace (c : Char) : Bool := c = ' ' || c = '\t'

/-- A character of a name: an ASCII letter, an ASCII digit, the low line or a hyphen. -/
def isNameChar (c : Char) : Bool := Text.isWordChar c || c = '-'

/-- The form in which a line end is kept in a scalar: the separators of lines and of paragraphs stay,
every other one is a newline. -/
def breakChar (c : Char) : Char := if c.toNat = 0x2028 || c.toNat = 0x2029 then c else '\n'

/-- Whether a text begins with a blank or the end of a line. -/
def atGap : Text → Bool
  | [] => true
  | c :: _ => isSpace c || isBreak c

/-- Whether a text begins with the end of a line. -/
def atLineEnd : Text → Bool
  | [] => true
  | c :: _ => isBreak c

/-- Whether a text begins with a mark between documents. -/
def atDocumentMark : Text → Bool
  | '-' :: '-' :: '-' :: t => atGap t
  | '.' :: '.' :: '.' :: t => atGap t
  | _ => false

/-- Drops a line end; a carriage return and a newline make one. -/
def dropBreak : Text → Text
  | '\r' :: '\n' :: t => t
  | _ :: t => t
  | [] => []

theorem length_dropBreak_le (t : Text) : (dropBreak t).length ≤ t.length - 1 := by
  unfold dropBreak
  split <;> simp

/-- A character that may stand in a YAML text. -/
def isAllowed (c : Char) : Bool :=
  let n := c.toNat
  n = 0x09 || n = 0x0A || n = 0x0D || (0x20 ≤ n && n ≤ 0x7E) || n = 0x85 ||
    (0xA0 ≤ n && n ≤ 0xD7FF) || (0xE000 ≤ n && n ≤ 0xFFFD) || 0x10000 ≤ n

end PubList.Yaml
