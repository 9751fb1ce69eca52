import PubList.Text.Basic

/-!
# Errors

What can go wrong with a configuration, a template, the entries or a file, each with its cause,
and the one line of text in which it is reported.
-/

namespace PubList

/-- Why a configuration is refused. -/
inductive ConfigError where
  | unknownTarget (name : Text)
  | unknownGroupMode (name : Text)
  | unknownGroupOrder (name : Text)
  | notBoolean (text : Text)
  | unknownOption (name : Text)
  /-- An option that has no equals sign. -/
  | notPair (item : Text)
  | noFile (tried : List Text)
  /-- A document that is neither JSON nor YAML, or has not the shape of a configuration. -/
  | malformed
  /-- A document with a member that no configuration has. -/
  | unknownField (name : Text)
  /-- A document with a setting that is refused for its own reason. -/
  | setting (cause : ConfigError)
  deriving DecidableEq, Repr

/-- Why the blocks of a template cannot be expanded; the offset counts bytes. -/
inductive TemplateError where
  | nestedGroup (offset : Nat)
  | unclosedEntry (offset : Nat)
  deriving DecidableEq, Repr

/-- Why a list of entries is refused. -/
inductive EntryError where
  | duplicateKey (key : Text)
  /-- A document that is neither JSON nor YAML, or is not a list of maps. -/
  | malformed
  /-- A field whose value is a list or a map, with that value in text. -/
  | notPlain (field value : Text)
  | noKey
  deriving DecidableEq, Repr

/-- Why nothing was rendered. -/
inductive Error where
  | config (cause : ConfigError)
  | template (cause : TemplateError)
  | entry (cause : EntryError)
  /-- A file that cannot be read or written, with the reason in text. -/
  | io (reason : Text)
  deriving DecidableEq, Repr

/-- A text in single quotes. -/
def quoted (t : Text) : Text := ['\''] ++ t ++ ['\'']

/-- The report of a cause: the area that it belongs to, the cause and a full stop. -/
def reportLine (area : String) (cause : Text) : Text := area.toList ++ ": ".toList ++ cause ++ ['.']

def ConfigError.message : ConfigError → Text
  | unknownTarget name => "unknown target ".toList ++ quoted name
  | unknownGroupMode name =>
    "unknown groupby ".toList ++ quoted name ++ " (expected none, author, title or year)".toList
  | unknownGroupOrder name => "unknown order ".toList ++ quoted name
  | notBoolean text => quoted text ++ " is not a boolean".toList
  | unknownOption name => "unknown option ".toList ++ quoted name
  | notPair item => "option ".toList ++ quoted item ++ " is not a key=value pair".toList
  | noFile tried =>
    "No configuration file found (tried: ".toList ++ List.intercalate ", ".toList tried ++ [')']
  | malformed => "Invalid configuration format".toList
  | unknownField name =>
    "Invalid configuration format: unknown field `".toList ++ name ++
      "`, expected one of `target`, `usegroup`, `groupby`, `order`".toList
  | setting cause =>
    "Invalid configuration format: ".toList ++ reportLine "Configuration error" cause.message

def TemplateError.message : TemplateError → Text
  | nestedGroup offset => "nested @\x7bgroup@ at offset ".toList ++ Text.ofNat offset
  | unclosedEntry offset =>
    "@\x7bentry@ is not closed before @\x7dgroup@ at offset ".toList ++ Text.ofNat offset

def EntryError.message : EntryError → Text
  | duplicateKey key => "duplicate entry key ".toList ++ quoted key
  | malformed => "Invalid entry data".toList
  | notPlain field value =>
    "Invalid entry data: ".toList ++ reportLine "Entry error"
      ("field ".toList ++ quoted field ++ " must be a plain value, got ".toList ++ value)
  | noKey => "Invalid entry data: ".toList ++ reportLine "Entry error" "entry without a key".toList

/-- The line in which an error is reported. -/
def Error.message : Error → Text
  | config cause => reportLine "Configuration error" cause.message
  | template cause => reportLine "Template error" cause.message
  | entry cause => reportLine "Entry error" cause.message
  | io reason => reportLine "IO error" reason

end PubList
