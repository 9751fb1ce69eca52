import PubList.Text.Basic

/-!
# Terms of patterns

A pattern as it is written: characters, classes, places between characters, repetitions, groups
and alternatives. Flags stand where they are written; what they change is settled when a term is
given its meaning.
-/

namespace PubList.Pattern

/-- A flag that a group can set or clear. -/
inductive Flag where
  /-- Letters stand for all their cases. -/
  | ignoreCase
  /-- `^` and `$` are the ends of lines, not of the text. -/
  | multiLine
  /-- A dot stands for line ends too. -/
  | dotAll
  /-- Repetitions try fewer turns first, which never changes whether a pattern matches. -/
  | swapGreed
  /-- Classes and word boundaries take all characters into account. -/
  | unicode
  /-- A carriage return ends a line too. -/
  | carriageReturn
  /-- Blank characters and comments in the pattern are skipped. -/
  | extended
  deriving DecidableEq, Repr

/-- A flag that is set or cleared. -/
structure FlagChange where
  flag : Flag
  enabled : Bool
  deriving DecidableEq, Repr

/-- A character that stands for itself. -/
structure Literal where
  char : Char
  /-- Whether it is written as `\x` and two digits. -/
  octet : Bool
  deriving DecidableEq, Repr

/-- The classes that a single letter names. -/
inductive Shorthand where
  | digit
  | space
  | word
  deriving DecidableEq, Repr

/-- The classes of ASCII characters that have a name inside brackets. -/
inductive AsciiClass where
  | alnum
  | alpha
  | ascii
  | blank
  | cntrl
  | digit
  | graph
  | lower
  | print
  | punct
  | space
  | upper
  | word
  | xdigit
  deriving DecidableEq, Repr

/-- A property of characters, by its name alone or by the name of a property and a value. -/
inductive CharProperty where
  | named (name : Text)
  | valued (property value : Text)
  deriving DecidableEq, Repr

/-- A test on a place between two characters. -/
inductive Anchor where
  | lineStart
  | lineEnd
  | textStart
  | textEnd
  | wordEdge
  | notWordEdge
  | wordStart
  | wordEnd
  | wordStartHalf
  | wordEndHalf
  deriving DecidableEq, Repr

/-- The smallest parts of a pattern. -/
inductive Atom where
  | literal (l : Literal)
  | dot
  | anchor (a : Anchor)
  | shorthand (s : Shorthand) (negated : Bool)
  | property (p : CharProperty) (negated : Bool)
  deriving DecidableEq, Repr

/-- The operations between the two sides of a bracketed class. -/
inductive SetOperation where
  | intersection
  | difference
  | symmetricDifference
  deriving DecidableEq, Repr

/-- What stands between the brackets of a class. -/
inductive Bracket where
  | literal (l : Literal)
  | range (first last : Literal)
  | ascii (c : AsciiClass) (negated : Bool)
  | shorthand (s : Shorthand) (negated : Bool)
  | property (p : CharProperty) (negated : Bool)
  | nested (negated : Bool) (body : Bracket)
  | union (items : List Bracket)
  | operation (op : SetOperation) (left right : Bracket)
  deriving Repr

/-- A pattern or a part of one. -/
inductive Term where
  | atom (a : Atom)
  | bracket (negated : Bool) (body : Bracket)
  | flags (changes : List FlagChange)
  | group (captures : Bool) (changes : List FlagChange) (body : Term)
  | repetition (body : Term) (least : Nat) (most : Option Nat)
  | sequence (parts : List Term)
  | choice (branches : List Term)
  deriving Repr

/-- The items of a class as one: a single item is itself. -/
def Bracket.ofItems : List Bracket → Bracket
  | [item] => item
  | items => .union items

/-- Parts that follow each other as one term: a single part is itself. -/
def Term.ofParts : List Term → Term
  | [part] => part
  | parts => .sequence parts

/-- Alternatives as one term: a single one is itself. -/
def Term.ofBranches : List Term → Term
  | [branch] => branch
  | branches => .choice branches

/-- How deep terms can be nested. -/
def maxDepth : Nat := 250

mutual

/-- How deep brackets, unions and operations are nested in a class. -/
def Bracket.depth : Bracket → Nat
  | .nested _ body => body.depth + 1
  | .union [] => 0
  | .union (item :: items) => max item.depth (depthOfItems items) + 1
  | .operation _ left right => max left.depth right.depth + 1
  | _ => 0

/-- The depth of the deepest of some items. -/
def depthOfItems : List Bracket → Nat
  | [] => 0
  | item :: items => max item.depth (depthOfItems items)

end

mutual

/-- How deep groups, repetitions, classes, sequences and alternatives are nested in a term. -/
def Term.depth : Term → Nat
  | .atom _ => 0
  | .bracket _ body => body.depth + 1
  | .flags _ => 0
  | .group _ _ body => body.depth + 1
  | .repetition body _ _ => body.depth + 1
  | .sequence [] => 0
  | .sequence (part :: parts) => max part.depth (depthOfTerms parts) + 1
  | .choice branches => depthOfTerms branches + 1

/-- The depth of the deepest of some terms. -/
def depthOfTerms : List Term → Nat
  | [] => 0
  | term :: terms => max term.depth (depthOfTerms terms)

end

end PubList.Pattern
