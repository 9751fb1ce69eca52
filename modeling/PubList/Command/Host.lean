import PubList.Error

/-!
# Files

What the program asks of its surroundings: to look for a file, to read and to write one, and to
print. A request that fails gives the reason in text.
-/

namespace PubList

/-- What a program may ask about files. -/
structure FileAccess (m : Type → Type) where
  /-- Whether there is a file or a directory with the given path. -/
  pathExists : Text → m Bool
  readText : Text → m (Except Text Text)

/-- What a program may ask of its surroundings. -/
structure Host (m : Type → Type) extends FileAccess m where
  writeText : (path text : Text) → m (Except Text Unit)
  print : Text → m Unit

/-- The path of a file in a directory. -/
def joinPath (directory file : Text) : Text :=
  if file.head? = some '/' ∨ directory = [] then file
  else if directory.getLast? = some '/' then directory ++ file
  else directory ++ '/' :: file

end PubList
