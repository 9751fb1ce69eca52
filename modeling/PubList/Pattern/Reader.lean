import PubList.Pattern.Bracket
import PubList.Unicode.Property

/-!
# Reading patterns

A pattern is read part by part, with the groups that are still open in a list. A part goes to the
end of the present branch of the innermost group.
-/

namespace PubList.Pattern

/-- The flag that a letter names. -/
def Flag.ofChar? (c : Char) : Option Flag :=
  match c with
  | 'i' => some .ignoreCase
  | 'm' => some .multiLine
  | 's' => some .dotAll
  | 'U' => some .swapGreed
  | 'u' => some .unicode
  | 'R' => some .carriageReturn
  | 'x' => some .extended
  | _ => none

/-- Reads on in a list of flags: the changes, whether a colon ends them, and what follows. Flags
after a hyphen are cleared. No flag stands twice, and flags follow the hyphen. -/
def readFlags? (changes : List FlagChange) (cleared dangling : Bool) :
    Text → Option (List FlagChange × Bool × Text)
  | [] => none
  | c :: t =>
    if c = ':' || c = ')' then
      if dangling then none else some (changes.reverse, c = ':', t)
    else if c = '-' then
      if cleared then none else readFlags? changes true true t
    else
      match Flag.ofChar? c with
      | none => none
      | some flag =>
        if changes.any fun change => change.flag = flag then none
        else readFlags? (⟨flag, !cleared⟩ :: changes) cleared false t

/-- Whether a character can be the first one of the name of a group. -/
def isGroupNameStart (c : Char) : Bool := c = '_' || Unicode.alphabetic.contains c

/-- Whether a character can stand in the name of a group. -/
def isGroupNameChar (c : Char) : Bool :=
  isGroupNameStart c || c = '.' || c = '[' || c = ']' ||
    (Unicode.GeneralCategory.charsOf Unicode.GeneralCategory.numbers).contains c

/-- The name of a group before a closing angle bracket, and what follows it. -/
def readGroupName? (t : Text) : Option (Text × Text) := do
  let (name, rest) ← Text.cutAtChar? '>' t
  match name with
  | [] => none
  | c :: name' =>
    if isGroupNameStart c && name'.all isGroupNameChar then some (name, rest) else none

/-- A group that is open, with what surrounds it. -/
structure OpenGroup where
  captures : Bool
  changes : List FlagChange
  /-- Whether the pattern around the group is extended. -/
  extended : Bool
  /-- The branches around the group that are complete, last first. -/
  branches : List Term
  /-- The parts of the branch that the group stands in, last first. -/
  parts : List Term

/-- How far a pattern is read. -/
structure Reading where
  extended : Bool := false
  /-- The names of groups so far. -/
  names : List Text := []
  /-- The groups that are open, innermost first. -/
  groups : List OpenGroup := []
  /-- The branches of the innermost group that are complete, last first. -/
  branches : List Term := []
  /-- The parts of its present branch, last first. -/
  parts : List Term := []

namespace Reading

def push (r : Reading) (term : Term) : Reading := { r with parts := term :: r.parts }

/-- The term that the innermost group holds so far. -/
def body (r : Reading) : Term :=
  Term.ofBranches (Term.ofParts r.parts.reverse :: r.branches).reverse

def branch (r : Reading) : Reading :=
  { r with branches := Term.ofParts r.parts.reverse :: r.branches, parts := [] }

/-- What the changes of a group or of a list of flags make of the flag for extended patterns. -/
def extendedAfter (r : Reading) (changes : List FlagChange) : Bool :=
  match changes.find? fun change => change.flag = .extended with
  | some change => change.enabled
  | none => r.extended

def openGroup (r : Reading) (captures : Bool) (changes : List FlagChange) : Reading :=
  { r with
    extended := r.extendedAfter changes
    groups := ⟨captures, changes, r.extended, r.branches, r.parts⟩ :: r.groups
    branches := []
    parts := [] }

/-- Opens a group with a name that no other group has. -/
def openNamedGroup? (r : Reading) (t : Text) : Option (Reading × Text) := do
  let (name, rest) ← readGroupName? t
  if name ∈ r.names then none
  else some ({ r with names := name :: r.names }.openGroup true [], rest)

/-- Reads the start of a group or a list of flags, after its opening parenthesis. -/
def readOpening? (r : Reading) (t : Text) : Option (Reading × Text) :=
  match dropSpacing r.extended t with
  | '?' :: 'P' :: '<' :: t => r.openNamedGroup? t
  | '?' :: '<' :: t => r.openNamedGroup? t
  | '?' :: t => do
    let (changes, colon, rest) ← readFlags? [] false false t
    if colon then some (r.openGroup false changes, rest)
    else if changes = [] then none
    else some ({ r with extended := r.extendedAfter changes }.push (.flags changes), rest)
  | t => some (r.openGroup true [], t)

/-- Closes the innermost group. -/
def closeGroup? (r : Reading) : Option Reading :=
  match r.groups with
  | [] => none
  | g :: groups =>
    some { r with
      extended := g.extended
      groups
      branches := g.branches
      parts := .group g.captures g.changes r.body :: g.parts }

/-- Repeats the last part, which is not a list of flags. -/
def repeatLast? (r : Reading) (least : Nat) (most : Option Nat) : Option Reading :=
  match r.parts with
  | [] => none
  | .flags _ :: _ => none
  | part :: parts => some { r with parts := .repetition part least most :: parts }

/-- Drops the question mark that turns the greed of a repetition. -/
def dropLazy : Text → Text
  | '?' :: t => t
  | t => t

/-- The number of turns in braces, after the opening one, and what follows them. -/
def readTurns? (extended : Bool) (t : Text) : Option (Nat × Option Nat × Text) := do
  let (least, t) ← readDecimal? extended (dropSpacing extended t)
  match t with
  | '\x7d' :: t => some (least, some least, t)
  | ',' :: t =>
    match dropSpacing extended t with
    | '\x7d' :: t => some (least, none, t)
    | t =>
      match readDecimal? extended t with
      | some (most, '\x7d' :: t) => if least ≤ most then some (least, some most, t) else none
      | _ => none
  | _ => none

/-- Reads the part of a pattern that begins with the character `c`, before the text `t`. -/
def step? (r : Reading) (c : Char) (t : Text) : Option (Reading × Text) :=
  let atom (a : Atom) : Reading := r.push (.atom a)
  match c with
  | '(' => r.readOpening? t
  | ')' => r.closeGroup?.map (·, t)
  | '|' => some (r.branch, t)
  | '[' => (readBracket? r.extended t).map fun (term, rest) => (r.push term, rest)
  | '?' => (r.repeatLast? 0 (some 1)).map (·, dropLazy t)
  | '*' => (r.repeatLast? 0 none).map (·, dropLazy t)
  | '+' => (r.repeatLast? 1 none).map (·, dropLazy t)
  | '\x7b' => do
    let (least, most, rest) ← readTurns? r.extended t
    let r' ← r.repeatLast? least most
    return (r', dropLazy (dropSpacing r.extended rest))
  | '\\' => (readEscape? r.extended t).map fun (a, rest) => (atom a, rest)
  | '.' => some (atom .dot, t)
  | '^' => some (atom (.anchor .lineStart), t)
  | '$' => some (atom (.anchor .lineEnd), t)
  | _ => some (atom (.literal ⟨c, false⟩), t)

/-- Reads on to the end of a pattern, where no group is open. The number of parts is bounded by the
fuel, for which the length of the text and one more is enough. -/
def finish? : Nat → Reading → Text → Option Term
  | 0, _, _ => none
  | fuel + 1, r, t =>
    match dropSpacing r.extended t with
    | [] => if r.groups.isEmpty then some r.body else none
    | c :: t =>
      match r.step? c t with
      | none => none
      | some (r, t) => finish? fuel r t

end Reading

/-- The term that a pattern denotes, unless it is malformed. -/
def Term.read? (t : Text) : Option Term := Reading.finish? (t.length + 1) {} t

end PubList.Pattern
