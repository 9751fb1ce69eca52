import PubList.Yaml.Folding

/-!
# Plain scalars

A plain scalar has no quotes. It ends at a colon before a gap, at a comment, at a mark between
documents, where the indentation is too small, and inside brackets at a mark of a list or a map.
-/

namespace PubList.Yaml

/-- A scalar that was read: its text, how many characters were taken, and whether the last of them
ended a line. -/
structure PlainScalar where
  text : Text
  size : Nat
  endsLine : Bool

/-- The context of a plain scalar: whether it stands inside brackets, and the least column at which
it may go on. -/
structure PlainContext where
  flow : Bool
  indent : Int

def isFlowMark (c : Char) : Bool :=
  c = ',' || c = '[' || c = ']' || c = '{' || c = '}'

/-- Whether a plain scalar ends before the character `c` and the text behind it. -/
def endsPlain (context : PlainContext) (g : Gathered) (column : Nat) (c : Char) (t : Text) : Bool :=
  (g.afterGap && ((!context.flow && column < context.indent) || c = '#' ||
    (column = 0 && atDocumentMark (c :: t)))) ||
  (c = ':' && atGap t) || (context.flow && isFlowMark c)

/-- Whether a colon stands before a mark that it must not stand before inside brackets. -/
def strayColon (context : PlainContext) (c : Char) (t : Text) : Bool :=
  context.flow && c = ':' &&
    match t with
    | next :: _ => next = '?' || isFlowMark next
    | [] => false

/-- Reads on in a plain scalar at the given column, after `size` characters. -/
def readPlain? (context : PlainContext) (g : Gathered) (column size : Nat) :
    Text → Option PlainScalar
  | [] => some ⟨g.text.reverse, size, g.folding⟩
  | c :: t =>
    if isBreak c then
      if c = '\r' && t.head? = some '\n' then readPlain? context g column (size + 1) t
      else readPlain? context (g.addBreak c) 0 (size + 1) t
    else if isSpace c then
      if g.folding && column < context.indent && c = '\t' then none
      else readPlain? context (g.addBlank c) (column + 1) (size + 1) t
    else if endsPlain context g column c t then some ⟨g.text.reverse, size, g.folding⟩
    else if strayColon context c t then none
    else readPlain? context (g.add c) (column + 1) (size + 1) t

end PubList.Yaml
