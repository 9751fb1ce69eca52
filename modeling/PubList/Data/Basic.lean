import PubList.Number.Shortest

/-!
# Data documents

The values that a document describes, and their compact text. A map keeps its members in the order
of the document, repeated names included.
-/

namespace PubList

/-- A number of a document: an integer as it is, any other number as a binary one. -/
inductive Number.Scalar where
  | integer (n : Int)
  | real (x : Number.Binary64)
  deriving DecidableEq, Repr

/-- The text of a number. -/
def Number.Scalar.toText : Number.Scalar → Text
  | integer n => Text.ofInt n
  | real x => x.toText

/-- A value in a document. -/
inductive Data where
  | null
  | bool (b : Bool)
  | number (n : Number.Scalar)
  | text (t : Text)
  | list (items : List Data)
  | map (members : List (Text × Data))
  deriving Repr

namespace Data

/-- Puts a member into a list of members: in place of a member with the same name, or at the end. -/
def putMember {α : Type} (name : Text) (value : α) : List (Text × α) → List (Text × α)
  | [] => [(name, value)]
  | (n, v) :: members =>
    if n = name then (n, value) :: members else (n, v) :: putMember name value members

/-- Members without repeated names: of a repeated name the first place and the last value stay. -/
def distinctMembers {α : Type} (members : List (Text × α)) : List (Text × α) :=
  members.foldl (fun done (name, value) => putMember name value done) []

def boolText (b : Bool) : Text := if b then "true".toList else "false".toList

/-- A hexadecimal digit. -/
def hexDigit (n : Nat) : Char := "0123456789abcdef".toList.getD n '0'

/-- A character in a quoted text: a quote, a backslash and the control characters are escaped. -/
def quoteChar (c : Char) : Text :=
  if c = '"' then "\\\"".toList
  else if c = '\\' then "\\\\".toList
  else if c = '\n' then "\\n".toList
  else if c = '\t' then "\\t".toList
  else if c = '\r' then "\\r".toList
  else if c.toNat = 8 then "\\b".toList
  else if c.toNat = 12 then "\\f".toList
  else if c.toNat < 32 then "\\u00".toList ++ [hexDigit (c.toNat / 16), hexDigit (c.toNat % 16)]
  else [c]

/-- A text in double quotes. -/
def quote (t : Text) : Text := ['"'] ++ t.flatMap quoteChar ++ ['"']

/-- Texts between two brackets, with commas between them. -/
def enclose (opening : Char) (parts : List Text) (closing : Char) : Text :=
  opening :: List.intercalate [','] parts ++ [closing]

mutual

/-- The compact text of a value: no blanks, and members sorted by their names. -/
def compact : Data → Text
  | null => "null".toList
  | bool b => boolText b
  | number n => n.toText
  | text t => quote t
  | list items => enclose '[' (compactItems items) ']'
  | map members =>
    let sorted := (distinctMembers (compactMembers members)).mergeSort fun a b =>
      (compare a.1 b.1).isLE
    enclose '{' (sorted.map fun (name, value) => quote name ++ ':' :: value) '}'

def compactItems : List Data → List Text
  | [] => []
  | item :: items => item.compact :: compactItems items

def compactMembers : List (Text × Data) → List (Text × Text)
  | [] => []
  | (name, value) :: members => (name, value.compact) :: compactMembers members

end

end Data

end PubList
