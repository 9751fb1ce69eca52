import PubList.Pattern.Spacing
import PubList.Pattern.Term
import PubList.Text.Search

/-!
# Escapes in patterns

What a backslash begins: a character given by its code point, a class, a place between two
characters, or a character that stands for itself. A backslash before any other letter or digit
is refused.
-/

namespace PubList.Pattern

/-- The next characters without the spacing between them, and what follows them. -/
def takeSpaced? (extended : Bool) : Nat → Text → Option (Text × Text)
  | 0, t => some ([], t)
  | count + 1, t =>
    match dropSpacing extended t with
    | [] => none
    | c :: t => (takeSpaced? extended count t).map fun (taken, rest) => (c :: taken, rest)

/-- The code point after `\x`, `\u` or `\U`: a number of digits, or any number of them in
braces. -/
def readCodePoint? (extended : Bool) (count : Nat) (t : Text) : Option (Literal × Text) := do
  let (braced, digits, rest) ← match dropSpacing extended t with
    | '\x7b' :: t => (readBraced? extended false t).map (true, ·)
    | t => (takeSpaced? extended count t).map (false, ·)
  let c ← Number.readCodePoint? digits
  return (⟨c, !braced && count = 2⟩, rest)

/-- The property that a name in braces stands for. A value follows its property after a colon or
an equals sign; an exclamation mark before the latter has no effect. -/
def CharProperty.ofText (t : Text) : CharProperty :=
  match Text.cutAt? "!=".toList t with
  | some (property, value) => .valued property value
  | none =>
    match Text.cutAtChar? ':' t with
    | some (property, value) => .valued property value
    | none =>
      match Text.cutAtChar? '=' t with
      | some (property, value) => .valued property value
      | none => .named t

/-- The name of a property after `\p`: one letter, or any text in braces. -/
def readProperty? (extended : Bool) (t : Text) : Option (CharProperty × Text) :=
  match dropSpacing extended t with
  | [] => none
  | '\x7b' :: t =>
    (readBraced? extended false t).map fun (name, rest) => (CharProperty.ofText name, rest)
  | '\\' :: _ => none
  | c :: t => some (.named [c], t)

/-- The places that a name in braces after `\b` stands for. -/
def Anchor.named? (name : Text) : Option Anchor :=
  if name = "start".toList then some .wordStart
  else if name = "end".toList then some .wordEnd
  else if name = "start-half".toList then some .wordStartHalf
  else if name = "end-half".toList then some .wordEndHalf
  else none

/-- What follows `\b`: the edge of a word, or one of the places that a name in braces tells. What
begins with no letter is no name, and may be a number of turns. -/
def readWordEdge? (extended : Bool) (t : Text) : Option (Anchor × Text) :=
  match t with
  | '\x7b' :: name =>
    match dropSpacing extended name with
    | [] => none
    | c :: _ =>
      if c.isAlpha || c = '-' then do
        let (name, rest) ← readBraced? extended false name
        let anchor ← Anchor.named? name
        return (anchor, rest)
      else some (.wordEdge, t)
  | _ => some (.wordEdge, t)

/-- Whether a character is an ASCII character that an escape can make stand for itself. -/
def isEscapable (c : Char) : Bool :=
  c.toNat < 0x80 && !c.isAlphanum && c ≠ '<' && c ≠ '>'

/-- The character that an escape of one letter stands for. -/
def escapedChar? (c : Char) : Option Char :=
  match c with
  | 'a' => some (Char.ofNat 0x07)
  | 'f' => some (Char.ofNat 0x0C)
  | 't' => some '\t'
  | 'n' => some '\n'
  | 'r' => some '\r'
  | 'v' => some (Char.ofNat 0x0B)
  | _ => none

/-- What an escape of one letter stands for, other than a character. -/
def escapedAtom? (c : Char) : Option Atom :=
  match c with
  | 'd' => some (.shorthand .digit false)
  | 'D' => some (.shorthand .digit true)
  | 's' => some (.shorthand .space false)
  | 'S' => some (.shorthand .space true)
  | 'w' => some (.shorthand .word false)
  | 'W' => some (.shorthand .word true)
  | 'A' => some (.anchor .textStart)
  | 'z' => some (.anchor .textEnd)
  | 'B' => some (.anchor .notWordEdge)
  | '<' => some (.anchor .wordStart)
  | '>' => some (.anchor .wordEnd)
  | _ => none

/-- What the text after a backslash begins with, and what follows it. -/
def readEscape? (extended : Bool) : Text → Option (Atom × Text)
  | [] => none
  | c :: t =>
    let literal (read : Option (Literal × Text)) : Option (Atom × Text) :=
      read.map fun (l, rest) => (.literal l, rest)
    if c = 'x' then literal (readCodePoint? extended 2 t)
    else if c = 'u' then literal (readCodePoint? extended 4 t)
    else if c = 'U' then literal (readCodePoint? extended 8 t)
    else if c = 'p' || c = 'P' then
      (readProperty? extended t).map fun (property, rest) => (.property property (c = 'P'), rest)
    else if c = 'b' then
      (readWordEdge? extended t).map fun (anchor, rest) => (.anchor anchor, rest)
    else if isEscapable c then some (.literal ⟨c, false⟩, t)
    else
      match escapedChar? c with
      | some char => some (.literal ⟨char, false⟩, t)
      | none => (escapedAtom? c).map (·, t)

end PubList.Pattern
