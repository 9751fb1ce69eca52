import PubList.Pattern.Escape

/-!
# Bracketed classes

The items of a class are read from left to right. Every bracket that is open has a level of its
own, with the items since its last operation and what stands before that operation.
-/

namespace PubList.Pattern

def AsciiClass.name : AsciiClass → Text
  | alnum => "alnum".toList
  | alpha => "alpha".toList
  | ascii => "ascii".toList
  | blank => "blank".toList
  | cntrl => "cntrl".toList
  | digit => "digit".toList
  | graph => "graph".toList
  | lower => "lower".toList
  | print => "print".toList
  | punct => "punct".toList
  | space => "space".toList
  | upper => "upper".toList
  | word => "word".toList
  | xdigit => "xdigit".toList

def AsciiClass.all : List AsciiClass :=
  [alnum, alpha, ascii, blank, cntrl, digit, graph, lower, print, punct, space, upper, word, xdigit]

/-- A named class such as `[:alpha:]` or `[:^alpha:]`, after its opening bracket. -/
def readAsciiClass? (t : Text) : Option (Bracket × Text) := do
  let t ← Text.dropMark? [':'] t
  let (negated, t) := match t with
    | '^' :: t => (true, t)
    | t => (false, t)
  let (name, rest) ← Text.cutAt? ":]".toList t
  let c ← AsciiClass.all.find? fun c => c.name = name
  return (.ascii c negated, rest)

/-- What an atom stands for inside brackets. A dot is no escape, and a place is no class. -/
def Atom.bracket? : Atom → Option Bracket
  | .literal l => some (.literal l)
  | .shorthand s negated => some (.shorthand s negated)
  | .property p negated => some (.property p negated)
  | .dot => none
  | .anchor _ => none

/-- An escape or a character that stands for itself, and what follows it. -/
def readClassAtom? (extended : Bool) : Text → Option (Atom × Text)
  | [] => none
  | '\\' :: t => readEscape? extended t
  | c :: t => some (.literal ⟨c, false⟩, t)

/-- A range or a single item, and what follows it. A hyphen before the closing bracket or before
another hyphen makes no range. -/
def readClassItem? (extended : Bool) (t : Text) : Option (Bracket × Text) := do
  let (first, t) ← readClassAtom? extended t
  match dropSpacing extended t with
  | '-' :: t' =>
    if peek? extended t' = some ']' || peek? extended t' = some '-' then
      let item ← first.bracket?
      return (item, '-' :: t')
    else
      let (last, rest) ← readClassAtom? extended (dropSpacing extended t')
      match first, last with
      | .literal a, .literal b => if a.char ≤ b.char then some (.range a b, rest) else none
      | _, _ => none
  | t =>
    let item ← first.bracket?
    return (item, t)

/-- A bracket that is open. -/
structure ClassLevel where
  negated : Bool
  /-- The last operation, and what stands to the left of it. -/
  left : Option (SetOperation × Bracket)
  /-- The items since then, last first. -/
  items : List Bracket

namespace ClassLevel

def push (level : ClassLevel) (item : Bracket) : ClassLevel :=
  { level with items := item :: level.items }

/-- What the bracket holds so far; operations group to the left. -/
def body (level : ClassLevel) : Bracket :=
  let right := Bracket.ofItems level.items.reverse
  match level.left with
  | none => right
  | some (op, left) => .operation op left right

def operate (level : ClassLevel) (op : SetOperation) : ClassLevel :=
  { level with left := some (op, level.body), items := [] }

/-- The hyphens at the start of a class, which stand for themselves, and what follows them and the
spacing; `comment` tells whether the text begins inside a comment. -/
def spanHyphens (extended comment : Bool) : Text → List Bracket × Text
  | [] => ([], [])
  | c :: t =>
    if comment then spanHyphens extended (c ≠ '\n') t
    else if extended && Text.isBlank c then spanHyphens extended false t
    else if extended && c = '#' then spanHyphens extended true t
    else if c = '-' then
      let (items, rest) := spanHyphens extended false t
      (.literal ⟨'-', false⟩ :: items, rest)
    else ([], c :: t)

/-- The level that the text after an opening bracket begins, and what follows its start: a caret
negates the class, and a closing bracket as the first item stands for itself. -/
def opening (extended : Bool) (t : Text) : ClassLevel × Text :=
  let (negated, t) := match dropSpacing extended t with
    | '^' :: t => (true, t)
    | t => (false, t)
  match spanHyphens extended false t with
  | ([], ']' :: t) => (⟨negated, none, [.literal ⟨']', false⟩]⟩, t)
  | (hyphens, t) => (⟨negated, none, hyphens⟩, t)

end ClassLevel

/-- The operation at the start of a text, and what follows it. -/
def readSetOperation? : Text → Option (SetOperation × Text)
  | '&' :: '&' :: t => some (.intersection, t)
  | '-' :: '-' :: t => some (.difference, t)
  | '~' :: '~' :: t => some (.symmetricDifference, t)
  | _ => none

/-- Reads on in a class at the given level, inside the levels `around`: whether the whole class is
negated, what it holds, and what follows its closing bracket. The number of items is bounded by
the fuel, for which the length of the text is enough. -/
def readClass? (extended : Bool) :
    Nat → ClassLevel → List ClassLevel → Text → Option (Bool × Bracket × Text)
  | 0, _, _, _ => none
  | fuel + 1, level, around, t =>
    match dropSpacing extended t with
    | [] => none
    | '[' :: t =>
      match readAsciiClass? t with
      | some (item, rest) => readClass? extended fuel (level.push item) around rest
      | none =>
        let (inner, rest) := ClassLevel.opening extended t
        readClass? extended fuel inner (level :: around) rest
    | ']' :: t =>
      match around with
      | [] => some (level.negated, level.body, t)
      | outer :: around =>
        readClass? extended fuel (outer.push (.nested level.negated level.body)) around t
    | t =>
      match readSetOperation? t with
      | some (op, rest) => readClass? extended fuel (level.operate op) around rest
      | none =>
        match readClassItem? extended t with
        | none => none
        | some (item, rest) => readClass? extended fuel (level.push item) around rest

/-- The class that the text after an opening bracket begins with, and what follows it. -/
def readBracket? (extended : Bool) (t : Text) : Option (Term × Text) :=
  let (level, rest) := ClassLevel.opening extended t
  (readClass? extended (t.length + 1) level [] rest).map fun (negated, body, rest) =>
    (.bracket negated body, rest)

end PubList.Pattern
