import PubList.Pattern.Regex

/-!
# Following matches

A tracker is a regular expression whose repetitions are written out, with a mark on every set
whose character has just been read by some attempt to match. A text is read once, from left to
right: at every place the marks move on to the sets that can read the next character, and a match
ends where a mark can leave the whole expression.
-/

namespace PubList.Pattern

open Unicode (CharSet)

/-- A regular expression with marks. -/
inductive Tracker where
  | set (s : CharSet) (marked : Bool)
  | place (p : Place)
  | sequence (parts : List Tracker)
  | choice (branches : List Tracker)
  /-- The body at most once. -/
  | optional (body : Tracker)
  /-- The body any number of times. -/
  | star (body : Tracker)
  deriving Repr

namespace Tracker

mutual

/-- The expression without marks and with its repetitions written out. -/
def ofRegex : Regex → Tracker
  | .set s => set s false
  | .place p => place p
  | .sequence parts => sequence (ofRegexes parts)
  | .choice branches => choice (ofRegexes branches)
  | .repetition body least none =>
    let body := ofRegex body
    sequence (List.replicate least body ++ [star body])
  | .repetition body least (some most) =>
    let body := ofRegex body
    sequence (List.replicate least body ++ List.replicate (most - least) (optional body))
  | .capture body => ofRegex body

def ofRegexes : List Regex → List Tracker
  | [] => []
  | r :: rs => ofRegex r :: ofRegexes rs

end

mutual

/-- Moves the marks on from the gap `g`, where an attempt enters the expression if `enters` holds:
the expression after the next character, and whether an attempt leaves the expression at the gap. -/
def advance (g : Gap) (enters : Bool) : Tracker → Tracker × Bool
  | set s marked => (set s (enters && g.after.any s.contains), marked)
  | place p => (place p, enters && p.holds g)
  | sequence parts =>
    let (parts, leaves) := advanceParts g enters [] parts
    (sequence parts, leaves)
  | choice branches =>
    let (branches, leaves) := advanceBranches g enters [] false branches
    (choice branches, leaves)
  | optional body =>
    let (body, leaves) := body.advance g enters
    (optional body, enters || leaves)
  | star body =>
    let (once, leaves) := body.advance g enters
    if leaves && !enters then (star (body.advance g true).1, true)
    else (star once, enters || leaves)

/-- Moves the marks in parts that follow each other: an attempt that leaves one part enters the
next. The parts that have been moved are in `done`, last first. -/
def advanceParts (g : Gap) (enters : Bool) (done : List Tracker) :
    List Tracker → List Tracker × Bool
  | [] => (done.reverse, enters)
  | part :: parts =>
    let (part, leaves) := part.advance g enters
    advanceParts g leaves (part :: done) parts

/-- Moves the marks in alternatives: an attempt enters all of them and leaves any of them. -/
def advanceBranches (g : Gap) (enters : Bool) (done : List Tracker) (left : Bool) :
    List Tracker → List Tracker × Bool
  | [] => (done.reverse, left)
  | branch :: branches =>
    let (branch, leaves) := branch.advance g enters
    advanceBranches g enters (branch :: done) (left || leaves) branches

end

/-- Whether a match ends in a text or at its end, when the text follows the character `before` and
an attempt begins at every place. -/
def finds (t : Tracker) (before : Option Char) : Text → Bool
  | [] => (t.advance ⟨before, none⟩ true).2
  | c :: text =>
    let (t, found) := t.advance ⟨before, some c⟩ true
    found || t.finds (some c) text

end Tracker

end PubList.Pattern
