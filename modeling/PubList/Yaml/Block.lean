import PubList.Yaml.Character

/-!
# Block scalars

A literal or a folded scalar is a run of lines below its head. The first line that is not empty sets
the indentation unless the head does, and the lines reach as far as the indentation does. A folded
scalar turns single line ends between plain lines into spaces.
-/

namespace PubList.Yaml

/-- What is kept of the line ends behind the last line: none, one or all. -/
inductive Chomping where
  | strip
  | clip
  | keep
  deriving DecidableEq, Repr

/-- The head of a block scalar. -/
structure BlockHead where
  literal : Bool
  chomping : Chomping
  /-- The indentation relative to what surrounds the scalar. -/
  increment : Option Nat

/-- Reads a sign of what is kept. -/
def readChomping : Text → Option (Chomping × Text)
  | '+' :: t => some (.keep, t)
  | '-' :: t => some (.strip, t)
  | _ => none

/-- Reads a digit for the indentation; zero is refused. -/
def readIncrement? : Text → Option (Option Nat × Text)
  | c :: t =>
    if c = '0' then none
    else if c.isDigit then some (some (c.toNat - '0'.toNat), t)
    else some (none, c :: t)
  | [] => some (none, [])

/-- Reads the sign and the digit of a head, in either order. -/
def readHead? (literal : Bool) (t : Text) : Option (BlockHead × Text) :=
  match readChomping t with
  | some (chomping, t) =>
    (readIncrement? t).map fun (increment, t) => (⟨literal, chomping, increment⟩, t)
  | none =>
    match readIncrement? t with
    | none => none
    | some (none, t) => some (⟨literal, .clip, none⟩, t)
    | some (increment, t) =>
      match readChomping t with
      | some (chomping, t) => some (⟨literal, chomping, increment⟩, t)
      | none => some (⟨literal, .clip, increment⟩, t)

/-- Drops blanks and a comment at the end of a line; anything else there is refused. -/
def dropLineRest? (t : Text) : Option Text :=
  let t := t.dropWhile isSpace
  let t := if t.head? = some '#' then t.dropWhile (!isBreak ·) else t
  if atLineEnd t then some t else none

/-- The empty lines before a line, and that line. -/
structure EmptyLines where
  /-- The line ends, in order. -/
  breaks : Text
  /-- The largest number of blanks that a line begins with. -/
  widest : Nat
  /-- The column at which the next line is looked at. -/
  column : Nat
  rest : Text

/-- Reads empty lines: blanks up to the indentation, all of them if it is not known yet. A tab in
their place is refused. -/
def readEmptyLines? (indent : Option Nat) (widest : Nat) (t : Text) : Option EmptyLines :=
  let blanks := (t.takeWhile (· = ' ')).length
  let column := match indent with
    | some n => min n blanks
    | none => blanks
  let widest := max widest column
  let within := match indent with
    | some n => decide (column < n)
    | none => true
  match _h : t.drop column with
  | [] => some ⟨[], widest, column, []⟩
  | c :: after =>
    if within && c = '\t' then none
    else if isBreak c then
      (readEmptyLines? indent widest (dropBreak (c :: after))).map fun lines =>
        { lines with breaks := breakChar c :: lines.breaks }
    else some ⟨[], widest, column, c :: after⟩
termination_by t.length
decreasing_by
  have hbreak := length_dropBreak_le (c :: after)
  have hrest := congrArg List.length _h
  simp at hbreak hrest ⊢
  omega

/-- What has been gathered of a block scalar. -/
structure BlockText where
  text : Text := []
  /-- The end of the last line. -/
  lineEnd : Text := []
  /-- Whether the last line began with a blank. -/
  indented : Bool := false

/-- Adds a line after empty lines with the given line ends. A line that begins with a blank is not
joined to its neighbours. -/
def BlockText.addLine (head : BlockHead) (b : BlockText) (breaks line lineEnd : Text) : BlockText :=
  let indented := (line.head?.map isSpace).getD false
  let joined :=
    if !head.literal && b.lineEnd = ['\n'] && !b.indented && !indented then
      if breaks = [] then [' '] else []
    else b.lineEnd
  ⟨b.text ++ joined ++ breaks ++ line, lineEnd, indented⟩

/-- The text with what is kept of the line ends behind it. -/
def BlockText.finish (head : BlockHead) (b : BlockText) (breaks : Text) : Text :=
  match head.chomping with
  | .strip => b.text
  | .clip => b.text ++ b.lineEnd
  | .keep => b.text ++ b.lineEnd ++ breaks

/-- Reads the lines of a block scalar, the first of which comes behind `lines`: its text, and what
follows it. -/
def readLines? (head : BlockHead) (indent : Nat) (b : BlockText) (lines : EmptyLines) :
    Nat → Option (Text × Text)
  | 0 => none
  | fuel + 1 =>
    if lines.column = indent ∧ lines.rest ≠ [] then
      let line := lines.rest.takeWhile (!isBreak ·)
      let behind := lines.rest.dropWhile (!isBreak ·)
      let lineEnd := (behind.take 1).map breakChar
      let b := b.addLine head lines.breaks line lineEnd
      (readEmptyLines? (some indent) 0 (dropBreak behind)).bind fun lines =>
        readLines? head indent b lines fuel
    else some (b.finish head lines.breaks, lines.rest)

/-- Reads a block scalar behind its mark, where `parent` is the indentation around it: its text, and
what follows it. -/
def readBlock? (literal : Bool) (parent : Int) (t : Text) : Option (Text × Text) := do
  let (head, t) ← readHead? literal t
  let t := dropBreak (← dropLineRest? t)
  let indent := head.increment.map fun n => (max parent 0).toNat + n
  let lines ← readEmptyLines? indent 0 t
  let indent := indent.getD (max (max lines.widest (parent + 1).toNat) 1)
  readLines? head indent {} lines (t.length + 1)

end PubList.Yaml
