import PubList.Command.Run

/-!
# A run on a disk

A disk is a tree of files as a value. On it a run is a function: from a disk to the disk afterwards,
what was printed and whether the run failed.
-/

namespace PubList

/-- What is at a path. -/
inductive File where
  | directory
  | text (t : Text)
  /-- A file that is not text. -/
  | binary
  deriving DecidableEq, Repr

/-- The files below a directory, each with the names on the way to it, the last one first. -/
structure Disk where
  files : List (List Text × File) := []
  deriving Repr

namespace Disk

/-- What is at a place; the disk itself is a directory. -/
def at? (d : Disk) : List Text → Option File
  | [] => some .directory
  | place => d.files.lookup place

/-- Puts something at a place, and directories on the way to it. -/
def put (d : Disk) (file : File) : List Text → Disk
  | [] => d
  | name :: parent =>
    let d := if (d.at? parent).isSome then d else put d .directory parent
    ⟨(name :: parent, file) :: d.files.filter (·.1 ≠ name :: parent)⟩

/-- Follows the names of a path from a place. A name leads on from directories only, and nothing
lies above the disk. -/
def follow? (d : Disk) (place : List Text) : List Text → Option (List Text)
  | [] => some place
  | name :: names =>
    if d.at? place ≠ some .directory then none
    else if name = [] ∨ name = ['.'] then d.follow? place names
    else if name = ['.', '.'] then
      match place with
      | [] => none
      | _ :: parent => d.follow? parent names
    else d.follow? (name :: place) names

/-- The place that a path leads to; there need not be anything. -/
def place? (d : Disk) (path : Text) : Option (List Text) :=
  if path = [] ∨ path.head? = some '/' then none
  else d.follow? [] (Text.splitWhere (· = '/') path)

/-- What a path leads to. -/
def find? (d : Disk) (path : Text) : Option File := (d.place? path).bind d.at?

/-- The text of a file. -/
def read (d : Disk) (path : Text) : Except Text Text :=
  match d.find? path with
  | some (.text t) => .ok t
  | some .directory => .error "Is a directory".toList
  | some .binary => .error "stream did not contain valid UTF-8".toList
  | none => .error "No such file or directory".toList

/-- The disk with a text in a file. The directory of the file has to exist. -/
def write (d : Disk) (path text : Text) : Except Text Disk :=
  match d.place? path with
  | none => .error "No such file or directory".toList
  | some place =>
    if d.at? place = some .directory then .error "Is a directory".toList
    else .ok (d.put (.text text) place)

end Disk

/-- A disk, and what has been printed so far. -/
structure World where
  disk : Disk := {}
  printed : Text := []

/-- A disk as the surroundings of a run. -/
def World.host : Host (StateM World) where
  pathExists path := do return ((← get).disk.find? path).isSome
  readText path := do return (← get).disk.read path
  writeText path text := do
    let world ← get
    match world.disk.write path text with
    | .ok disk =>
      set { world with disk }
      return .ok ()
    | .error reason => return .error reason
  print text := modify fun world => { world with printed := world.printed ++ text }

/-- A run on a disk: its outcome, and the disk and what was printed afterwards. -/
def World.run (world : World) (args : Arguments) : Except Error Unit × World :=
  (PubList.run World.host args).run.run world

end PubList
