import PubList.Number.Integer
import PubList.Text.Search

/-!
# Sets of characters

A set of characters is a sorted array of spans of code points. Union sorts and joins spans,
complement takes the gaps between them, and the other operations follow from these two.
-/

namespace PubList.Unicode

/-- The code points from `first` to `last`, both included. -/
structure Span where
  first : Nat
  last : Nat
  deriving DecidableEq, Repr

/-- The largest code point. -/
def lastCodePoint : Nat := 0x10FFFF

/-- A set of code points: spans in ascending order that neither overlap nor touch. -/
structure CharSet where
  spans : Array Span
  deriving DecidableEq, Repr

namespace CharSet

/-- Binary search for a code point among the spans from index `low` up to `high`. -/
def search (spans : Array Span) (n low high : Nat) : Bool :=
  if low < high then
    let middle := (low + high) / 2
    match spans[middle]? with
    | none => false
    | some span =>
      if n < span.first then search spans n low middle
      else if span.last < n then search spans n (middle + 1) high
      else true
  else false
termination_by high - low

/-- Whether a code point is in a set. -/
def containsPoint (s : CharSet) (n : Nat) : Bool := search s.spans n 0 s.spans.size

/-- Whether a character is in a set. -/
def contains (s : CharSet) (c : Char) : Bool := s.containsPoint c.toNat

/-- Adds a span to joined spans in descending order, none of which begins after it. -/
def pushSpan (joined : List Span) (span : Span) : List Span :=
  match joined with
  | [] => [span]
  | last :: rest =>
    if span.first ≤ last.last + 1 then ⟨last.first, max last.last span.last⟩ :: rest
    else span :: joined

/-- The set of the code points of some spans, in any order. -/
def ofSpans (spans : List Span) : CharSet :=
  let sorted := (spans.filter fun s => s.first ≤ s.last).mergeSort fun s t => s.first ≤ t.first
  ⟨(sorted.foldl pushSpan []).reverse.toArray⟩

def empty : CharSet := ⟨#[]⟩

/-- The set of the code points of a list. -/
def ofPoints (points : List Nat) : CharSet := ofSpans (points.map fun n => ⟨n, n⟩)

def single (c : Char) : CharSet := ⟨#[⟨c.toNat, c.toNat⟩]⟩

/-- The characters from one character to another. -/
def range (a b : Char) : CharSet := ofSpans [⟨a.toNat, b.toNat⟩]

def union (s t : CharSet) : CharSet := ofSpans (s.spans.toList ++ t.spans.toList)

/-- The union of the sets of a list. -/
def unions (sets : List CharSet) : CharSet := ofSpans (sets.flatMap fun s => s.spans.toList)

/-- The gaps from code point `start` on between sorted spans. -/
def gaps (start : Nat) : List Span → List Span
  | [] => if start ≤ lastCodePoint then [⟨start, lastCodePoint⟩] else []
  | span :: spans =>
    if start < span.first then ⟨start, span.first - 1⟩ :: gaps (span.last + 1) spans
    else gaps (span.last + 1) spans

def complement (s : CharSet) : CharSet := ⟨(gaps 0 s.spans.toList).toArray⟩

def isEmpty (s : CharSet) : Bool := s.spans.isEmpty

def inter (s t : CharSet) : CharSet := (s.complement.union t.complement).complement

def diff (s t : CharSet) : CharSet := s.inter t.complement

def symmDiff (s t : CharSet) : CharSet := (s.diff t).union (t.diff s)

/-- Whether every code point of a set is in another one. -/
def subset (s t : CharSet) : Bool := (s.diff t).isEmpty

/-- All characters. -/
def all : CharSet := empty.complement

end CharSet

/-- The words of a table: its parts between spaces and line ends. -/
def tableWords (table : String) : List Text :=
  (Text.splitWhere (fun c => c = ' ' || c = '\n') table.toList).filter (· ≠ [])

/-- A number in a table: hexadecimal digits. -/
def tableNumber (t : Text) : Nat := (Number.readNat? 16 t).getD 0

/-- Every `step`-th code point from `first` to `last`. -/
structure Stride where
  first : Nat
  last : Nat
  step : Nat
  deriving DecidableEq, Repr

/-- A stride in a table: one number, two with a hyphen between them, or two and a step, as in
`100-136/2`. -/
def Stride.ofTable (t : Text) : Stride :=
  let (ends, step) := match Text.cutAtChar? '/' t with
    | some (ends, step) => (ends, tableNumber step)
    | none => (t, 1)
  match Text.cutAtChar? '-' ends with
  | some (first, last) => ⟨tableNumber first, tableNumber last, step⟩
  | none => ⟨tableNumber ends, tableNumber ends, step⟩

/-- The code points of a stride, in ascending order. -/
def Stride.toList (s : Stride) : List Nat :=
  (List.range ((s.last - s.first) / s.step + 1)).map fun i => s.first + s.step * i

/-- The code points of a stride as spans. -/
def Stride.spans (s : Stride) : List Span :=
  if s.step = 1 then [⟨s.first, s.last⟩] else s.toList.map fun n => ⟨n, n⟩

/-- The set that a table of sorted strides lists. -/
def CharSet.ofTable (table : String) : CharSet :=
  ⟨((tableWords table).flatMap fun t => (Stride.ofTable t).spans).toArray⟩

end PubList.Unicode
