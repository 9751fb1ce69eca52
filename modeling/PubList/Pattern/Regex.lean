import PubList.Unicode.CharSet

/-!
# Regular expressions

What a pattern means: sets of characters, tests on the place between two characters, and the
operations of regular expressions with counted repetitions. The size of an expression is the room
that an automaton over the bytes of its characters takes; it is computed without writing out the
repetitions.
-/

namespace PubList.Pattern

open Unicode (CharSet Span)

/-- The characters on both sides of a place in a text. -/
structure Gap where
  before : Option Char
  after : Option Char
  deriving DecidableEq, Repr

/-- A test on a place in a text. Whether a carriage return ends a line, and which characters make
up words, is part of the test. -/
inductive Place where
  | textStart
  | textEnd
  | lineStart (carriageReturn : Bool)
  | lineEnd (carriageReturn : Bool)
  | wordEdge (word : CharSet)
  | notWordEdge (word : CharSet)
  | wordStart (word : CharSet)
  | wordEnd (word : CharSet)
  | wordStartHalf (word : CharSet)
  | wordEndHalf (word : CharSet)
  deriving DecidableEq, Repr

/-- Whether a place passes a test. A carriage return and the line feed after it have no line end
between them. -/
def Place.holds (p : Place) (g : Gap) : Bool :=
  match p with
  | textStart => g.before.isNone
  | textEnd => g.after.isNone
  | lineStart carriageReturn =>
    g.before.isNone || g.before = some '\n' ||
      (carriageReturn && g.before = some '\r' && g.after ≠ some '\n')
  | lineEnd carriageReturn =>
    g.after.isNone || (carriageReturn && g.after = some '\r') ||
      (g.after = some '\n' && !(carriageReturn && g.before = some '\r'))
  | wordEdge word => g.before.any word.contains != g.after.any word.contains
  | notWordEdge word => g.before.any word.contains == g.after.any word.contains
  | wordStart word => !g.before.any word.contains && g.after.any word.contains
  | wordEnd word => g.before.any word.contains && !g.after.any word.contains
  | wordStartHalf word => !g.before.any word.contains
  | wordEndHalf word => !g.after.any word.contains

/-- A regular expression. -/
inductive Regex where
  /-- One character of a set. -/
  | set (s : CharSet)
  /-- The empty text at a place that passes a test. -/
  | place (p : Place)
  | sequence (parts : List Regex)
  | choice (branches : List Regex)
  | repetition (body : Regex) (least : Nat) (most : Option Nat)
  /-- A group that is counted, for what it matches. -/
  | capture (body : Regex)
  deriving Repr

namespace Regex

mutual

/-- Whether an expression only matches empty texts, by its form. -/
def isWidthless : Regex → Bool
  | set _ => false
  | place _ => true
  | sequence parts => areWidthless parts
  | choice branches => areWidthless branches
  | repetition body _ most => most = some 0 || body.isWidthless
  | capture body => body.isWidthless

def areWidthless : List Regex → Bool
  | [] => true
  | r :: rs => r.isWidthless && areWidthless rs

end

/-- Repeats an expression. What only matches empty texts need not be matched more than once. -/
def repeated (body : Regex) (least : Nat) (most : Option Nat) : Regex :=
  if most = some 0 then sequence []
  else if body.isWidthless then repetition body (min least 1) (some ((most.getD 1).min 1))
  else repetition body least most

/-- The spans of bytes that cover the code points from `first` to `last` in base 64, where as many
digits as `level` follow the leading one. -/
def byteSpans : (level first last : Nat) → List (List Span)
  | 0, first, last => [[⟨first, last⟩]]
  | level + 1, first, last =>
    let unit := Nat.pow 64 (level + 1)
    let top (n : Nat) (rest : List Span) : List Span := ⟨n, n⟩ :: rest
    if first / unit = last / unit then
      (byteSpans level (first % unit) (last % unit)).map (top (first / unit))
    else
      let low := if first % unit = 0 then []
        else (byteSpans level (first % unit) (unit - 1)).map (top (first / unit))
      let high := if last % unit = unit - 1 then []
        else (byteSpans level 0 (last % unit)).map (top (last / unit))
      let start := if first % unit = 0 then first / unit else first / unit + 1
      let stop := if last % unit = unit - 1 then last / unit + 1 else last / unit
      let middle := if start < stop then
          [⟨start, stop - 1⟩ :: List.replicate (level + 1) ⟨0, 63⟩]
        else []
      low ++ middle ++ high

/-- The spans of bytes in the UTF-8 forms of the characters of a span. The leading bytes of forms
of different lengths are told apart by an offset. -/
def utf8Spans (span : Span) : List (List Span) :=
  let parts : List (Nat × Nat × Nat × Nat) :=
    [(0, 0, 0, 0x7F), (1, 0xC0, 0x80, 0x7FF), (2, 0xE0, 0x800, 0xD7FF), (2, 0xE0, 0xE000, 0xFFFF),
      (3, 0xF0, 0x10000, 0x10FFFF)]
  parts.flatMap fun (level, offset, low, high) =>
    let first := max span.first low
    let last := min span.last high
    if last < first then []
    else (byteSpans level first last).map fun
      | lead :: rest => ⟨offset + lead.first, offset + lead.last⟩ :: rest
      | [] => []

/-- How many elements of `current` come after what it has in common with `previous`. -/
def newCount (previous current : List Span) : Nat :=
  match previous, current with
  | p :: ps, c :: cs => if p = c then newCount ps cs else cs.length + 1
  | [], cs => cs.length
  | _ :: _, [] => 0

/-- How many spans of bytes a tree takes that shares the starts of forms that follow each other. -/
def treeSize (previous : List Span) : List (List Span) → Nat
  | [] => 0
  | form :: forms => newCount previous form + treeSize form forms

/-- The room that a set of characters takes. -/
def sizeOfSet (s : CharSet) : Nat :=
  match s.spans.toList with
  | [⟨first, last⟩] =>
    if first = last then 32 * (Char.ofNat first).utf8Size
    else if last < 0x80 then 72
    else sizeOfForms (utf8Spans ⟨first, last⟩)
  | spans =>
    if spans.all fun span => span.last < 0x80 then 64 + 8 * spans.length
    else sizeOfForms (spans.flatMap utf8Spans)
where
  sizeOfForms (forms : List (List Span)) : Nat := 32 * treeSize [] forms + 4 * forms.length + 64

mutual

/-- The room that an expression takes, in bytes, when its repetitions are written out. -/
def size : Regex → Nat
  | set s => sizeOfSet s
  | place _ => 32
  | sequence parts => sizeOfAll parts
  | choice branches => sizeOfAll branches + 4 * branches.length + 64
  | repetition body least none =>
    if least = 0 then body.size + 80 else least * body.size + 40
  | repetition body least (some most) =>
    least * body.size + (most - least) * (body.size + 40) + (if least = most then 0 else 32)
  | capture body => body.size + 64

def sizeOfAll : List Regex → Nat
  | [] => 0
  | r :: rs => r.size + sizeOfAll rs

end

/-- The room that an expression may take: ten mebibytes. -/
def maxSize : Nat := 10 * Nat.pow 2 20

end Regex

end PubList.Pattern
