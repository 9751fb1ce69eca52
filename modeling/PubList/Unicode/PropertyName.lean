import PubList.Unicode.Property
import PubList.Unicode.Script

/-!
# Names of properties

Properties, general categories and scripts are found by name. Names are compared without regard
to case, spaces, hyphens, underscores and a leading `is`.
-/

namespace PubList.Unicode

/-- The letters of a name that count when names are compared. -/
def nameKey (name : Text) : Text :=
  let key (t : Text) : Text :=
    (t.filter fun c => c.toNat < 0x80 && c ≠ ' ' && c ≠ '_' && c ≠ '-').map Char.toLower
  match name with
  | a :: b :: rest =>
    if a.toLower = 'i' && b.toLower = 's' then
      let rest := key rest
      if rest = ['c'] then ['i', 's', 'c'] else rest
    else key name
  | _ => key name

/-- Whether a key is the key of one of some names. -/
def isKeyOf (key : Text) (names : List String) : Bool :=
  names.any fun name => nameKey name.toList = key

/-- The property whose name has a key. -/
def BinaryProperty.ofKey? (key : Text) : Option BinaryProperty :=
  BinaryProperty.all.find? fun property => isKeyOf key property.names

/-- The characters of the general category, or the group of categories, whose name has a key. -/
def categoryOfKey? (key : Text) : Option CharSet :=
  if key = "any".toList then some .all
  else if key = "assigned".toList then some GeneralCategory.unassignedPoints.complement
  else if key = "ascii".toList then some ⟨#[⟨0, 0x7F⟩]⟩
  else if isKeyOf key ["C", "Other"] then some GeneralCategory.others
  else
    match GeneralCategory.groups.find? fun group => isKeyOf key group.1 with
    | some group => some (GeneralCategory.charsOf group.2)
    | none =>
      ((GeneralCategory.unassigned :: GeneralCategory.assigned).find? fun category =>
        isKeyOf key category.names).map GeneralCategory.chars

/-- The script whose name has a key. -/
def Script.ofKey? (key : Text) : Option Script :=
  Script.all.find? fun script =>
    isKeyOf key ((tableWords script.names).map String.ofList)

/-- The characters that a single name stands for: those of a property, a general category or a
script. -/
def charsNamed? (name : Text) : Option CharSet :=
  let key := nameKey name
  match BinaryProperty.ofKey? key with
  | some property => some property.chars
  | none => (categoryOfKey? key).orElse fun _ => (Script.ofKey? key).map Script.chars

end PubList.Unicode
