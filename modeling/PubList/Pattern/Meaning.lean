import PubList.Pattern.Regex
import PubList.Pattern.Term
import PubList.Unicode.PropertyValue

/-!
# The meaning of patterns

Terms become regular expressions. The modes that flags set hold from the flags to the end of the
innermost group, also in the branches that follow. Without the Unicode mode a class is a set of
bytes, and since a pattern is matched against characters it must not leave ASCII.
-/

namespace PubList.Pattern

open Unicode (CharSet)

/-- What the flags have set. -/
structure Modes where
  ignoreCase : Bool := false
  multiLine : Bool := false
  dotAll : Bool := false
  unicode : Bool := true
  carriageReturn : Bool := false
  deriving DecidableEq, Repr

namespace Modes

def change (m : Modes) (c : FlagChange) : Modes :=
  match c.flag with
  | .ignoreCase => { m with ignoreCase := c.enabled }
  | .multiLine => { m with multiLine := c.enabled }
  | .dotAll => { m with dotAll := c.enabled }
  | .unicode => { m with unicode := c.enabled }
  | .carriageReturn => { m with carriageReturn := c.enabled }
  | .swapGreed => m
  | .extended => m

def changeAll (m : Modes) (changes : List FlagChange) : Modes := changes.foldl change m

/-- The ASCII characters. -/
def ascii : CharSet := ⟨#[⟨0, 0x7F⟩]⟩

/-- Adds the other cases of the letters of a set if the modes ask for it. -/
def foldCases (m : Modes) (s : CharSet) : CharSet :=
  if m.ignoreCase then if m.unicode then s.withCases else s.withLatinCases else s

/-- The characters that are not in a set, among the bytes or among all characters. -/
def negate (m : Modes) (s : CharSet) : CharSet :=
  if m.unicode then s.complement else (⟨#[⟨0, 0xFF⟩]⟩ : CharSet).diff s

/-- The set that is left when cases are added and the set is negated. A set of bytes stays within
ASCII. -/
def settle? (m : Modes) (negated : Bool) (s : CharSet) : Option CharSet :=
  let s := m.foldCases s
  let s := if negated then m.negate s else s
  if m.unicode || s.subset ascii then some s else none

end Modes

/-- The ASCII characters of a named class. -/
def AsciiClass.chars : AsciiClass → CharSet
  | alnum => .ofTable "30-39 41-5A 61-7A"
  | alpha => .ofTable "41-5A 61-7A"
  | ascii => .ofTable "0-7F"
  | blank => .ofTable "9 20"
  | cntrl => .ofTable "0-1F 7F"
  | digit => .ofTable "30-39"
  | graph => .ofTable "21-7E"
  | lower => .ofTable "61-7A"
  | print => .ofTable "20-7E"
  | punct => .ofTable "21-2F 3A-40 5B-60 7B-7E"
  | space => .ofTable "9-D 20"
  | upper => .ofTable "41-5A"
  | word => .ofTable "30-39 41-5A 5F 61-7A"
  | xdigit => .ofTable "30-39 41-46 61-66"

/-- The characters that a class of one letter stands for. -/
def Shorthand.chars (m : Modes) : Shorthand → CharSet
  | digit => if m.unicode then .ofTable (Unicode.GeneralCategory.table .decimalNumber)
    else AsciiClass.digit.chars
  | space => if m.unicode then Unicode.whiteSpace else AsciiClass.space.chars
  | word => if m.unicode then Unicode.wordChars else AsciiClass.word.chars

/-- The characters of a class of one letter, or all others. These sets hold all cases of their
letters. -/
def Shorthand.chars? (m : Modes) (s : Shorthand) (negated : Bool) : Option CharSet :=
  if negated then if m.unicode then some (s.chars m).complement else none else some (s.chars m)

/-- The characters that have a property. -/
def CharProperty.chars? : CharProperty → Option CharSet
  | named name => Unicode.charsNamed? name
  | valued property value => Unicode.charsValued? property value

/-- The characters that have a property in the Unicode mode, or all others. -/
def CharProperty.settle? (m : Modes) (p : CharProperty) (negated : Bool) : Option CharSet :=
  if m.unicode then p.chars?.bind (m.settle? negated) else none

def SetOperation.apply : SetOperation → CharSet → CharSet → CharSet
  | intersection => CharSet.inter
  | difference => CharSet.diff
  | symmetricDifference => CharSet.symmDiff

mutual

/-- The characters that stand for what is written between brackets. -/
def Bracket.chars? (m : Modes) : Bracket → Option CharSet
  | .literal l => if m.unicode || l.char.toNat < 0x80 then some (.single l.char) else none
  | .range a b =>
    if m.unicode || b.char.toNat < 0x80 then some (.range a.char b.char) else none
  | .ascii c negated => m.settle? negated c.chars
  | .shorthand s negated => s.chars? m negated
  | .property p negated => p.settle? m negated
  | .nested negated body => (body.chars? m).bind (m.settle? negated)
  | .union items => charsOfItems? m items
  | .operation op left right => do
    let left ← left.chars? m
    let right ← right.chars? m
    return op.apply (m.foldCases left) (m.foldCases right)

/-- The characters that stand for one of some items. -/
def charsOfItems? (m : Modes) : List Bracket → Option CharSet
  | [] => some .empty
  | item :: items => do
    let s ← item.chars? m
    let t ← charsOfItems? m items
    return s.union t

end

/-- The characters of words by which edges of words are found. -/
def Modes.word (m : Modes) : CharSet := Shorthand.word.chars m

def Anchor.place (m : Modes) : Anchor → Place
  | lineStart => if m.multiLine then .lineStart m.carriageReturn else .textStart
  | lineEnd => if m.multiLine then .lineEnd m.carriageReturn else .textEnd
  | textStart => .textStart
  | textEnd => .textEnd
  | wordEdge => .wordEdge m.word
  | notWordEdge => .notWordEdge m.word
  | wordStart => .wordStart m.word
  | wordEnd => .wordEnd m.word
  | wordStartHalf => .wordStartHalf m.word
  | wordEndHalf => .wordEndHalf m.word

/-- The characters that a dot stands for. Without the Unicode mode it would stand for bytes that
are no characters. -/
def dotChars? (m : Modes) : Option CharSet :=
  if !m.unicode then none
  else if m.dotAll then some .all
  else if m.carriageReturn then some (CharSet.ofTable "A D").complement
  else some (CharSet.single '\n').complement

/-- The meaning of an atom. -/
def Atom.regex? (m : Modes) : Atom → Option Regex
  | literal l =>
    if m.unicode || !l.octet || l.char.toNat < 0x80 then
      some (.set (m.foldCases (.single l.char)))
    else none
  | dot => (dotChars? m).map .set
  | anchor a => some (.place (a.place m))
  | shorthand s negated => (s.chars? m negated).map .set
  | property p negated => (p.settle? m negated).map .set

mutual

/-- The meaning of a term in the given modes, and the modes after it. -/
def Term.regex? (m : Modes) : Term → Option (Regex × Modes)
  | .atom a => (a.regex? m).map (·, m)
  | .bracket negated body =>
    ((body.chars? m).bind (m.settle? negated)).map fun s => (.set s, m)
  | .flags changes => some (.sequence [], m.changeAll changes)
  | .group captures changes body => do
    let (r, _) ← body.regex? (m.changeAll changes)
    return (if captures then .capture r else r, m)
  | .repetition body least most => do
    let (r, m) ← body.regex? m
    return (r.repeated least most, m)
  | .sequence parts => (regexesOf? m parts).map fun (rs, m) => (.sequence rs, m)
  | .choice branches => (regexesOf? m branches).map fun (rs, m) => (.choice rs, m)

/-- The meanings of terms that follow each other, and the modes after them. -/
def regexesOf? (m : Modes) : List Term → Option (List Regex × Modes)
  | [] => some ([], m)
  | term :: terms => do
    let (r, m) ← term.regex? m
    let (rs, m) ← regexesOf? m terms
    return (r :: rs, m)

end

end PubList.Pattern
