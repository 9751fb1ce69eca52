import PubList.Yaml.Block
import PubList.Yaml.Plain
import PubList.Yaml.Quoted

/-!
# Tokens of YAML

The marks, names and scalars that a YAML text consists of. Lists and maps that are shown by
indentation have marks for their beginning and end too.
-/

namespace PubList.Yaml

/-- How a scalar is written. -/
inductive ScalarStyle where
  | plain
  | quoted
  | literal
  | folded
  deriving DecidableEq, Repr

inductive Token where
  | streamEnd
  | documentStart
  | documentEnd
  | versionDirective (major minor : Nat)
  | tagDirective (handle expansion : Text)
  | blockListStart
  | blockMapStart
  /-- The end of a list or a map that is shown by indentation. -/
  | blockEnd
  | flowListStart
  | flowListEnd
  | flowMapStart
  | flowMapEnd
  | blockEntry
  | flowEntry
  | key
  | value
  | alias (name : Text)
  | anchor (name : Text)
  | tag (handle suffix : Text)
  | scalar (style : ScalarStyle) (text : Text)
  deriving DecidableEq, Repr

end PubList.Yaml
