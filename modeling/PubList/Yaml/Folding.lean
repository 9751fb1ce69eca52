import PubList.Yaml.Character

/-!
# Folding of lines

A plain or a quoted scalar may go over several lines. What is gathered of it keeps apart the text so
far and the blanks and line ends behind it, for these count only once more text follows: one line
end becomes a space, of several ones the first is dropped, and blanks around line ends are dropped.
-/

namespace PubList.Yaml

/-- What has been gathered of a scalar; texts are kept in reverse order. -/
structure Gathered where
  text : Text := []
  /-- Blanks on the line of the text. -/
  blanks : Text := []
  /-- Whether a line has ended since the text. -/
  folding : Bool := false
  /-- The first line end since the text, unless it was escaped. -/
  firstBreak : Option Char := none
  laterBreaks : Text := []

namespace Gathered

/-- Adds a blank; blanks behind a line end do not count. -/
def addBlank (g : Gathered) (c : Char) : Gathered :=
  if g.folding then g else { g with blanks := c :: g.blanks }

/-- Adds a line end. -/
def addBreak (g : Gathered) (c : Char) : Gathered :=
  if g.folding then { g with laterBreaks := breakChar c :: g.laterBreaks }
  else { g with blanks := [], folding := true, firstBreak := some (breakChar c) }

/-- Joins blanks and line ends to the text. -/
def settle (g : Gathered) : Gathered :=
  if g.folding then
    match g.firstBreak with
    | none => { text := g.laterBreaks ++ g.text }
    | some '\n' =>
      if g.laterBreaks = [] then { text := ' ' :: g.text } else { text := g.laterBreaks ++ g.text }
    | some c => { text := g.laterBreaks ++ c :: g.text }
  else { text := g.blanks ++ g.text }

/-- Adds a character of the text. -/
def add (g : Gathered) (c : Char) : Gathered :=
  let g := g.settle
  { g with text := c :: g.text }

/-- Whether blanks or line ends have come since the text. -/
def afterGap (g : Gathered) : Bool := g.folding || g.blanks ≠ []

end Gathered

end PubList.Yaml
