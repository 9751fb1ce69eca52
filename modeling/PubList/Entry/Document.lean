import PubList.Data.Basic
import PubList.Entry.Basic
import PubList.Error

/-!
# Entries from documents

A member map becomes an entry: plain values become texts, a null is as good as no member, and a list
or a map is refused. Every entry has a key that is not empty, and no two entries have the same key.
-/

namespace PubList

/-- The text of a plain value. -/
def Data.plainText? : Data → Option Text
  | text t => some t
  | number n => some n.toText
  | bool b => some (boolText b)
  | _ => none

namespace Entry

/-- The members of a map as texts, without those that are null. -/
def plainMembers : List (Text × Data) → Except EntryError (List (Text × Text))
  | [] => .ok []
  | (_, .null) :: members => plainMembers members
  | (name, value) :: members =>
    match value.plainText? with
    | some t => (plainMembers members).map ((name, t) :: ·)
    | none => .error (.notPlain name value.compact)

/-- The entry that a map describes. -/
def ofMembers (members : List (Text × Data)) : Except EntryError Entry := do
  let plain ← plainMembers (Data.distinctMembers members)
  match plain.lookup keyName with
  | some (c :: key) => .ok ⟨c :: key, plain.filter fun member => member.1 ≠ keyName⟩
  | _ => .error .noKey

/-- The entry that a value describes; it has to be a map. -/
def ofData : Data → Except EntryError Entry
  | .map members => ofMembers members
  | _ => .error .malformed

/-- The entries that a value describes; it has to be a list of maps. -/
def listOfData : Data → Except EntryError (List Entry)
  | .list items => items.mapM ofData
  | _ => .error .malformed

/-- Refuses entries of which two have the same key, naming the first key that comes again. -/
def checkKeys (seen : List Text) : List Entry → Except EntryError Unit
  | [] => .ok ()
  | e :: entries =>
    if e.key ∈ seen then .error (.duplicateKey e.key) else checkKeys (e.key :: seen) entries

end Entry

end PubList
