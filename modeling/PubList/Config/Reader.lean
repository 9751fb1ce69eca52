import PubList.Config.Document
import PubList.Json.Reader
import PubList.Yaml.Schema

/-!
# Reading configurations

A configuration document is a JSON text or, if it is not, a YAML one. Why it is refused is what is
wrong with it as YAML.
-/

namespace PubList.Config

/-- The flag that a YAML node is. -/
def flagOfNode? : Yaml.Node → Option Bool
  | .scalar _ .plain t => Yaml.boolWord? t
  | .scalar (some tag) .literal t => if tag = Yaml.coreTag "bool" then Yaml.boolWord? t else none
  | _ => none

/-- Gives a field the value that a YAML node holds for it. A text is taken as it stands, whatever
else it could mean. -/
def setNode (c : Config) (field : Field) (node : Yaml.Node) : Except ConfigError Config :=
  match field with
  | .useGroup =>
    match flagOfNode? node with
    | some useGroup => .ok { c with useGroup }
    | none => .error .malformed
  | field =>
    match node.scalarText? with
    | some t => (c.setField field t).mapError .setting
    | none => .error .malformed

/-- Sets the fields of members; `seen` are the fields that have been set. -/
def setNodes (c : Config) (seen : List Field) :
    List (Yaml.Node × Yaml.Node) → Except ConfigError Config
  | [] => .ok c
  | (key, node) :: members =>
    match key.scalarText? with
    | none => .error .malformed
    | some name =>
      match Field.ofName? name with
      | none => .error (.unknownField name)
      | some field =>
        if field ∈ seen then .error .malformed
        else do (← c.setNode field node).setNodes (field :: seen) members

/-- The configuration that a YAML node describes. -/
def ofNode : Yaml.Node → Except ConfigError Config
  | .map _ members => setNodes {} [] members
  | node => if node.isMissing then .ok {} else .error .malformed

/-- The configuration of a YAML document; an empty text changes no default. -/
def ofDocument (document : Yaml.Document) : Except ConfigError Config := do
  let c ← match document.root with
    | some node => ofNode node
    | none => .ok {}
  if document.alone then return c else throw .malformed

/-- The configuration of a JSON text. -/
def ofJson? (t : Text) : Option Config := (Json.read? t).bind ofData?

/-- Reads a configuration document. -/
def read (t : Text) : Except ConfigError Config :=
  match ofJson? t with
  | some c => .ok c
  | none => ofDocument (Yaml.Document.read t)

end PubList.Config
