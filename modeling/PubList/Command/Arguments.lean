import PubList.Text.Search

/-!
# Command-line arguments

An argument is an option with its value, a group of one-letter options, or the file of entries. The
value of an option may be attached to it or come as the next argument; it counts only once the next
option or the end shows that it is complete, and a fault in it is reported then.
-/

namespace PubList

/-- What the arguments ask for. -/
structure Arguments where
  entries : Text
  template : Option Text := none
  config : Option Text := none
  options : Option Text := none
  output : Option Text := none
  verbose : Bool := false
  deriving DecidableEq, Repr

/-- Why the arguments are not used for a run. -/
inductive ArgumentError where
  | missingRequired
  | unknownArgument
  /-- Help was asked for. -/
  | displayHelp
  /-- The version was asked for. -/
  | displayVersion
  /-- A value that is missing, or empty where it must not be. -/
  | invalidValue
  /-- Something that was given twice. -/
  | conflict
  /-- A value for an option that takes none. -/
  | tooManyValues
  deriving DecidableEq, Repr

/-- The status with which the program ends when it does not run. -/
def ArgumentError.status : ArgumentError → Nat
  | displayHelp | displayVersion => 0
  | missingRequired => 1
  | _ => 2

namespace Arguments

/-- What takes a value: the file of entries, and four options. -/
inductive Parameter where
  | entries
  | template
  | config
  | options
  | output
  deriving DecidableEq, Repr

/-- What can be named by a letter or a word. -/
inductive Switch where
  | parameter (p : Parameter)
  | verbose
  | help
  | version
  deriving DecidableEq, Repr

/-- The switch with a one-letter name. -/
def Switch.ofLetter? (c : Char) : Option Switch :=
  match c with
  | 't' => some (.parameter .template)
  | 'c' => some (.parameter .config)
  | 'o' => some (.parameter .options)
  | 'v' => some .verbose
  | 'h' => some .help
  | 'V' => some .version
  | _ => none

/-- The switches with their long names. -/
def Switch.names : List (Text × Switch) :=
  [("template".toList, .parameter .template), ("config".toList, .parameter .config),
    ("options".toList, .parameter .options), ("output".toList, .parameter .output),
    ("verbose".toList, .verbose), ("help".toList, .help), ("version".toList, .version)]

/-- The state of the reading. -/
structure Reading where
  values : List (Parameter × Text) := []
  verbose : Bool := false
  /-- A parameter that has been named, and its value if that has come. -/
  pending : Option (Parameter × Option Text) := none
  /-- Whether only files of entries may follow. -/
  onlyEntries : Bool := false
  /-- Whether the file of entries has come. -/
  hasEntries : Bool := false

namespace Reading

/-- Whether the next argument may be the value of a pending option. -/
def awaitsValue (r : Reading) : Bool :=
  match r.pending with
  | some (_, none) => !r.onlyEntries
  | _ => false

/-- Gives a parameter its value. Each parameter has one, and a path is not empty. -/
def store (r : Reading) (p : Parameter) (value : Text) : Except ArgumentError Reading :=
  if (r.values.lookup p).isSome then .error .conflict
  else if value = [] ∧ p ≠ .options then .error .invalidValue
  else .ok { r with values := (p, value) :: r.values }

/-- Gives a pending parameter its value. -/
def settle (r : Reading) : Except ArgumentError Reading :=
  match r.pending with
  | none => .ok r
  | some (_, none) => .error .invalidValue
  | some (p, some value) => { r with pending := none }.store p value

/-- Takes a switch, with the value that is attached to it. -/
def take (r : Reading) (s : Switch) (attached : Option Text) : Except ArgumentError Reading :=
  match s, attached with
  | .parameter p, some value => do (← r.settle).store p value
  | .parameter p, none => do return { (← r.settle) with pending := some (p, none) }
  | _, some _ => .error .tooManyValues
  | .verbose, none => do
    let r ← r.settle
    if r.verbose then throw .conflict else return { r with verbose := true }
  | .help, none => do
    let _ ← r.settle
    throw .displayHelp
  | .version, none => do
    let _ ← r.settle
    throw .displayVersion

/-- Takes a long name with an attached value, if there is one. -/
def takeLong (r : Reading) (t : Text) : Except ArgumentError Reading :=
  let (name, attached) := match Text.cutAtChar? '=' t with
    | some (name, value) => (name, some value)
    | none => (t, none)
  match Switch.names.lookup name with
  | some s => r.take s attached
  | none => .error .unknownArgument

/-- Takes one-letter names; the text behind one that takes a value is the value. -/
def takeLetters (r : Reading) : Text → Except ArgumentError Reading
  | [] => .ok r
  | c :: t =>
    match Switch.ofLetter? c with
    | none => .error .unknownArgument
    | some (.parameter p) =>
      let attached := match t with
        | [] => none
        | '=' :: value => some value
        | value => some value
      r.take (.parameter p) attached
    | some s => do (← r.take s none).takeLetters t

/-- Takes the file of entries. -/
def takeEntries (r : Reading) (t : Text) : Except ArgumentError Reading :=
  if r.hasEntries then .error .unknownArgument
  else do return { (← r.settle) with pending := some (.entries, some t), hasEntries := true }

/-- Takes an argument that is not a name: a value or the file of entries. -/
def takeValue (r : Reading) (t : Text) : Except ArgumentError Reading :=
  match r.pending, r.awaitsValue with
  | some (p, _), true => .ok { r with pending := some (p, some t) }
  | _, _ => r.takeEntries t

/-- Takes an argument. -/
def step (r : Reading) (argument : Text) : Except ArgumentError Reading :=
  if r.onlyEntries then r.takeEntries argument
  else
    match argument with
    | ['-', '-'] => .ok { r with onlyEntries := true }
    | '-' :: '-' :: t => r.takeLong t
    | '-' :: c :: t => r.takeLetters (c :: t)
    | t => r.takeValue t

/-- What the arguments ask for; the file of entries is required. -/
def finish (r : Reading) : Except ArgumentError Arguments := do
  let r ← r.settle
  match r.values.lookup .entries with
  | none => throw .missingRequired
  | some entries =>
    return {
      entries
      template := r.values.lookup .template
      config := r.values.lookup .config
      options := r.values.lookup .options
      output := r.values.lookup .output
      verbose := r.verbose }

end Reading

/-- Reads the arguments. -/
def read (arguments : List Text) : Except ArgumentError Arguments := do
  (← arguments.foldlM Reading.step {}).finish

end Arguments

end PubList
