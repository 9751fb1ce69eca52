import PubList.Pattern.Meaning
import PubList.Pattern.Reader
import PubList.Pattern.Tracker

/-!
# Patterns

A pattern is compiled from its text and searched for in values. A text that is malformed, nested
too deep or too large when its repetitions are written out is no pattern.
-/

namespace PubList

/-- A compiled pattern. -/
structure Pattern where
  /-- The text that the pattern was compiled from. -/
  source : Text
  /-- The expression that follows its matches. -/
  tracker : Pattern.Tracker
  deriving Repr

namespace Pattern

/-- The pattern that a text denotes. -/
def compile? (source : Text) : Option Pattern := do
  let term ← Term.read? source
  if maxDepth < term.depth then none
  let (regex, _) ← term.regex? {}
  if Regex.maxSize < regex.size then none
  return ⟨source, .ofRegex regex⟩

/-- Whether a pattern matches somewhere in a text. -/
def isMatch (p : Pattern) (t : Text) : Bool := p.tracker.finds none t

end Pattern

end PubList
