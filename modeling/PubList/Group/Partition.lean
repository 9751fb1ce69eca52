import PubList.Group.Key

/-!
# Groups of entries

Entries are put into groups by their keys. Each group keeps the order in which its entries came,
and the groups are shown in the order of their keys or in the reverse of it.
-/

namespace PubList

/-- Entries under a common key. -/
structure Group where
  key : Text
  entries : List Entry
  deriving DecidableEq, Repr

namespace Group

/-- Adds an entry at the end of the group with the given key, or as a new last group. -/
def insert (key : Text) (e : Entry) : List Group → List Group
  | [] => [⟨key, [e]⟩]
  | g :: groups =>
    if g.key = key then ⟨g.key, g.entries ++ [e]⟩ :: groups else g :: insert key e groups

/-- The groups of entries in the order in which their keys first occur. -/
def collect (mode : GroupMode) (entries : List Entry) : List Group :=
  entries.foldl (fun groups e => insert (keyOf mode e) e groups) []

/-- Whether the first group may stand before the second one in ascending order. -/
def notAfter (g h : Group) : Bool := (compareKeys g.key h.key).isLE

/-- The groups of entries in the order in which they are shown. -/
def ofEntries (mode : GroupMode) (order : GroupOrder) (entries : List Entry) : List Group :=
  let ascending := (collect mode entries).mergeSort notAfter
  match order with
  | .ascending => ascending
  | .descending => ascending.reverse

/-- Replaces the entries of the group with the given key, or adds a new last group. -/
def put (key : Text) (entries : List Entry) : List Group → List Group
  | [] => [⟨key, entries⟩]
  | g :: groups => if g.key = key then ⟨g.key, entries⟩ :: groups else g :: put key entries groups

end Group

end PubList
