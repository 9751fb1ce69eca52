import PubList.Text.Lowercase

/-!
# Bibliography entries

An entry is a key and a sparse set of named fields. The name `key` always answers the entry's key,
whatever its fields hold.
-/

namespace PubList

/-- One record of a bibliography. Of two fields with the same name the first one counts. -/
structure Entry where
  key : Text
  fields : List (Text × Text)
  deriving DecidableEq, Repr

namespace Entry

def keyName : Text := "key".toList
def yearName : Text := "year".toList
def monthName : Text := "month".toList
def titleName : Text := "title".toList
def authorName : Text := "author".toList

/-- The value of a field, if the entry has it. -/
def get? (e : Entry) (name : Text) : Option Text :=
  if name = keyName then some e.key else e.fields.lookup name

@[simp] theorem get?_key (e : Entry) : e.get? keyName = some e.key := by simp [get?]

def year? (e : Entry) : Option Text := e.get? yearName
def month? (e : Entry) : Option Text := e.get? monthName
def title? (e : Entry) : Option Text := e.get? titleName
def author? (e : Entry) : Option Text := e.get? authorName

/-- The word that stands between two names of a list of authors. -/
def authorSeparator : Text := " and ".toList

def isBrace (c : Char) : Bool := c = '{' || c = '}'

/-- The first name of a list of authors. -/
def firstAuthor (authors : Text) : Text :=
  Text.trim <| match Text.cutAt? authorSeparator authors with
    | some (first, _) => first
    | none => authors

/-- The last name in a name, which is either "Last, First" or "First Last". -/
def lastNameOf? (name : Text) : Option Text :=
  match Text.cutAtChar? ',' name with
  | some (last, _) => some (Text.trim last)
  | none => (Text.words name).getLast?

/-- The last name of the first author, without the braces around it. -/
def firstAuthorLastName? (e : Entry) : Option Text :=
  ((e.author?.bind fun authors => lastNameOf? (firstAuthor authors)).map
    (Text.trimWhere isBrace)).filter (· ≠ [])

end Entry

end PubList
