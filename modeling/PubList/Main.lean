import PubList.Command.Run

/-!
# The command line

Reads the arguments, runs on the files of the system, and reports a failure in one line.
-/

namespace PubList

/-- The reason of a failure of the system. -/
def attempt {α : Type} (action : IO α) : IO (Except Text α) := do
  try
    return .ok (← action)
  catch reason =>
    return .error reason.toString.toList

/-- The files and the standard output of the system. -/
def systemHost : Host IO where
  pathExists path := do return (← attempt (IO.FS.realPath (String.ofList path))).toBool
  readText path := do
    return (← attempt (IO.FS.readFile (String.ofList path))).map String.toList
  writeText path text := attempt (IO.FS.writeFile (String.ofList path) (String.ofList text))
  print text := do
    (← IO.getStdout).putStr (String.ofList text)

def usage : String :=
  "bibplate: render bibliography entries through publication-list templates

Usage: bibplate [OPTIONS] <ENTRIES>

Arguments:
  <ENTRIES>  JSON or YAML file holding the list of entries

Options:
  -t, --template <FILE>    Template file; the built-in publication list is used when omitted
  -c, --config <DIR>       Directory containing bibplate.json, bibplate.yml or bibplate.yaml
  -o, --options <OPTIONS>  Inline options applied on top of the configuration,
                           e.g. \"groupby=author;order=ascending\"
      --output <FILE>      Write the rendered output to this file instead of stdout
  -v, --verbose            Enable verbose logging output
  -h, --help               Print help
  -V, --version            Print version
"

/-- Tells why the program does not run. -/
def reportArguments (cause : ArgumentError) : IO Unit :=
  match cause with
  | .displayHelp | .missingRequired => IO.print usage
  | .displayVersion => IO.println "bibplate 0.1.0"
  | _ => IO.eprint s!"error: the arguments cannot be used\n\n{usage}"

end PubList

open PubList in
def main (arguments : List String) : IO UInt32 := do
  match Arguments.read (arguments.map String.toList) with
  | .error cause =>
    reportArguments cause
    return cause.status.toUInt32
  | .ok args =>
    match ← (run systemHost args).run with
    | .ok () => return 0
    | .error cause =>
      IO.eprintln (String.ofList cause.message)
      return 1
