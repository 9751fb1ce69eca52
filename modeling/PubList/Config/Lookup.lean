import PubList.Command.Host
import PubList.Config.Reader

/-!
# Configuration files

The configuration of a directory is in the first file that exists of a list of names.
-/

namespace PubList.Config

/-- The names of configuration files. -/
def fileNames : List Text :=
  ["bibplate.json", "bibplate.yml", "bibplate.yaml"].map String.toList

variable {m : Type → Type} [Monad m]

/-- Reads a file. -/
def readFile (files : FileAccess m) (path : Text) : ExceptT Error m Text := do
  match ← files.readText path with
  | .ok t => return t
  | .error reason => throw (.io reason)

/-- The first of some paths that exists. -/
def findPath? (files : FileAccess m) : List Text → m (Option Text)
  | [] => return none
  | path :: paths => do if ← files.pathExists path then return some path else findPath? files paths

/-- The text of the first file that exists in a directory. -/
def load (files : FileAccess m) (directory : Text) (names : List Text) : ExceptT Error m Text := do
  let found ← (findPath? files (names.map (joinPath directory)) : m (Option Text))
  match found with
  | some path => readFile files path
  | none => throw (.config (.noFile names))

/-- The configuration of a directory. -/
def ofDirectory (files : FileAccess m) (directory : Text) : ExceptT Error m Config := do
  let t ← load files directory fileNames
  match read t with
  | .ok c => return c
  | .error cause => throw (.config cause)

end PubList.Config
