import PubList.Command.Arguments
import PubList.Config.Lookup
import PubList.Config.Options
import PubList.Entry.Reader
import PubList.Entry.Sort
import PubList.Template.Builtin
import PubList.Template.Cached

/-!
# A run

A run finds its configuration, reads its template and its entries, renders them, and only then
writes: to the file that was named, or to the standard output.
-/

namespace PubList

/-- A configuration under the options that are given. -/
def Config.withOptions (c : Config) (options : Option Text) : Except Error Config :=
  match options with
  | none => .ok c
  | some options =>
    match c.applyOptions options with
    | (c, none) => .ok c
    | (_, some cause) => .error (.config cause)

/-- The entries of a document in the order and the groups in which they are shown. -/
def Config.groupDocument (c : Config) (document : Text) : Except Error (List Group) :=
  match readEntries document with
  | .ok entries => .ok (Group.ofEntries c.groupBy c.order (sortEntries entries))
  | .error cause => .error (.entry cause)

/-- The rendering of groups. -/
def Config.renderGroups (c : Config) (template : Text) (groups : List Group) : Except Error Text :=
  (Template.renderCached c groups template).mapError .template

theorem Config.renderGroups_eq (c : Config) (template : Text) (groups : List Group) :
    c.renderGroups template groups = (Template.render c groups template).mapError .template := by
  rw [renderGroups, Template.renderCached_eq_render]

variable {m : Type → Type} [Monad m]

/-- The configuration that a run goes by: that of a directory, if one is named, under the options
that are given. -/
def runConfig (files : FileAccess m) (args : Arguments) : ExceptT Error m Config := do
  let c ← match args.config with
    | some directory => Config.ofDirectory files directory
    | none => pure {}
  liftExcept (c.withOptions args.options)

/-- The text that a run produces. It only reads. -/
def produce (files : FileAccess m) (args : Arguments) : ExceptT Error m Text := do
  let c ← runConfig files args
  let template ← match args.template with
    | some path => Config.readFile files path
    | none => pure Template.builtin
  let groups ← liftExcept (c.groupDocument (← Config.readFile files args.entries))
  liftExcept (c.renderGroups template groups)

/-- Puts a text where it was asked for. -/
def deliver (host : Host m) (output : Option Text) (text : Text) : ExceptT Error m Unit := do
  match output with
  | none => host.print text
  | some path =>
    match ← host.writeText path text with
    | .ok () => return ()
    | .error reason => throw (.io reason)

/-- A run with its arguments. -/
def run (host : Host m) (args : Arguments) : ExceptT Error m Unit := do
  deliver host args.output (← produce host.toFileAccess args)

end PubList
