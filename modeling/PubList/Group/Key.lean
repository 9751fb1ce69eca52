import PubList.Config.Basic
import PubList.Entry.Basic

/-!
# Group keys

The key of the group that an entry belongs to, and the order of keys: numbers come before other
texts and go by their value, other texts go by their characters.
-/

namespace PubList.Group

/-- The key of the only group where entries are not grouped. -/
def ungroupedKey : Text := "all".toList

/-- The first letter of a text, after opening braces and blanks; nothing if there is none. -/
def firstLetter (t : Option Text) : Text :=
  ((t.getD []).dropWhile fun c => c = '{' || Text.isBlank c).take 1

/-- The key of the group of an entry. -/
def keyOf (mode : GroupMode) (e : Entry) : Text :=
  match mode with
  | .none => ungroupedKey
  | .year => e.year?.getD []
  | .author => firstLetter e.firstAuthorLastName?
  | .title => firstLetter e.title?

/-- The order of group keys. Two spellings of one number are told apart by their characters. -/
def compareKeys (a b : Text) : Ordering :=
  match Number.readInt64? a, Number.readInt64? b with
  | some x, some y => (compare x y).then (compare a b)
  | some _, none => .lt
  | none, some _ => .gt
  | none, none => compare a b

end PubList.Group
