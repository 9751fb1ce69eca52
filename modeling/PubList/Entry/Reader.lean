import PubList.Entry.Document
import PubList.Json.Reader
import PubList.Yaml.Schema

/-!
# Reading entries

A text of entries is a JSON list of maps or, if it is not, a YAML one. Why it is refused is what is
wrong with it as YAML.
-/

namespace PubList

namespace Entry

/-- The entry that a YAML node describes. -/
def ofNode : Yaml.Node → Except EntryError Entry
  | .map _ members =>
    match Yaml.Node.membersData? members with
    | some members => ofMembers members
    | none => .error .malformed
  | node => if node.isMissing then ofMembers [] else .error .malformed

/-- The entries that a YAML node describes. -/
def listOfNode : Yaml.Node → Except EntryError (List Entry)
  | .list _ items => items.mapM ofNode
  | node => if node.isMissing then .ok [] else .error .malformed

/-- The entries of a YAML document; an empty text has none. -/
def listOfDocument (document : Yaml.Document) : Except EntryError (List Entry) := do
  let entries ← match document.root with
    | some node => listOfNode node
    | none => .ok []
  if document.alone then return entries else throw .malformed

/-- The entries of a JSON text. -/
def listOfJson? (t : Text) : Option (List Entry) :=
  (Json.read? t).bind fun value => (listOfData value).toOption

end Entry

/-- Reads a list of entries. -/
def readEntries (t : Text) : Except EntryError (List Entry) := do
  let entries ← match Entry.listOfJson? t with
    | some entries => .ok entries
    | none => Entry.listOfDocument (Yaml.Document.read t)
  Entry.checkKeys [] entries
  return entries

end PubList
