import PubList.Yaml.Lexer

/-!
# From tokens to events

The events of a YAML text tell the shape of its documents: where each list and each map begins and
ends, and the scalars and aliases in them. A missing key or value is an empty scalar. The events go
as far as the tokens are in order.
-/

namespace PubList.Yaml

/-- The names that may stand before a node. -/
structure Properties where
  anchor : Option Text := none
  tag : Option Text := none
  deriving DecidableEq, Repr

inductive Event where
  | streamEnd
  | documentStart
  | documentEnd
  | alias (name : Text)
  | scalar (properties : Properties) (style : ScalarStyle) (text : Text)
  | listStart (properties : Properties)
  | listEnd
  | mapStart (properties : Properties)
  | mapEnd
  deriving DecidableEq, Repr

/-- An empty scalar, where a node is missing. -/
def Event.missing : Event := .scalar {} .plain []

/-- What the tokens that follow belong to. -/
inductive Phase where
  /-- The first document, whose beginning need not be marked. -/
  | firstDocument
  | nextDocument
  | documentContent
  | documentRest
  | blockNode
  | blockItem
  /-- An item of a list that is not indented against the map around it. -/
  | levelItem
  | blockKey
  | blockValue
  | flowItem (first : Bool)
  /-- The parts of a map of one member among the items of a list in brackets. -/
  | singleKey
  | singleValue
  | singleEnd
  | flowKey (first : Bool)
  | flowValue
  | flowNoValue
  | finished
  deriving DecidableEq, Repr

/-- The state of the reading. -/
structure EventReader where
  tokens : List Token
  phase : Phase := .firstDocument
  /-- What comes after the node that is read, from the inside out. -/
  pending : List Phase := []
  /-- What the handles of tags stand for. -/
  handles : List (Text × Text) := []

namespace EventReader

/-- An event, and the state behind it. -/
abbrev Step := Option (Event × EventReader)

/-- The state after a node: what is pending comes next. -/
def resume (r : EventReader) (tokens : List Token) : EventReader :=
  match r.pending with
  | phase :: pending => { r with tokens, phase, pending }
  | [] => { r with tokens, phase := .finished }

/-- The state in which a phase comes after the next node. -/
def await (r : EventReader) (phase : Phase) : EventReader :=
  { r with pending := phase :: r.pending }

/-- An empty scalar in place of a node. -/
def missing (r : EventReader) (tokens : List Token) (phase : Phase) : Step :=
  some (.missing, { r with tokens, phase })

/-- The handles that every document knows. -/
def defaultHandles : List (Text × Text) :=
  [("!".toList, "!".toList), ("!!".toList, "tag:yaml.org,2002:".toList)]

/-- Reads directives: there may be one version, which has to be 1.1 or 1.2, and each handle may be
given one meaning. The default handles come last. -/
def readDirectives (version : Bool) (handles : List (Text × Text)) :
    List Token → Option (List (Text × Text) × List Token)
  | .versionDirective major minor :: tokens =>
    if version ∨ major ≠ 1 ∨ (minor ≠ 1 ∧ minor ≠ 2) then none
    else readDirectives true handles tokens
  | .tagDirective handle expansion :: tokens =>
    if (handles.lookup handle).isSome then none
    else readDirectives version ((handle, expansion) :: handles) tokens
  | tokens => some (handles ++ defaultHandles, tokens)

/-- Begins a document whose beginning is marked. -/
def beginMarked (r : EventReader) (tokens : List Token) : Step :=
  match readDirectives false [] tokens with
  | some (handles, .documentStart :: tokens) =>
    some (.documentStart,
      { tokens, phase := .documentContent, pending := .documentRest :: r.pending, handles })
  | _ => none

/-- Begins a document, or ends the text. -/
def beginDocument (r : EventReader) : Step :=
  match r.tokens.dropWhile (· = .documentEnd) with
  | [] => none
  | .streamEnd :: tokens => some (.streamEnd, { r with tokens, phase := .finished })
  | tokens => r.beginMarked tokens

/-- Begins the first document, or ends the text. -/
def beginFirstDocument (r : EventReader) : Step :=
  match r.tokens with
  | [] => none
  | .streamEnd :: tokens => some (.streamEnd, { r with tokens, phase := .finished })
  | .versionDirective .. :: _ | .tagDirective .. :: _ | .documentStart :: _ =>
    r.beginMarked r.tokens
  | _ =>
    some (.documentStart, { r with
      phase := .blockNode
      pending := .documentRest :: r.pending
      handles := defaultHandles })

/-- Reads the anchor and the tag before a node, in either order. -/
def readProperties : List Token → Option Text × Option (Text × Text) × List Token
  | .anchor name :: .tag handle suffix :: tokens => (some name, some (handle, suffix), tokens)
  | .tag handle suffix :: .anchor name :: tokens => (some name, some (handle, suffix), tokens)
  | .anchor name :: tokens => (some name, none, tokens)
  | .tag handle suffix :: tokens => (none, some (handle, suffix), tokens)
  | tokens => (none, none, tokens)

/-- The full tag for a handle and a suffix. -/
def fullTag? (r : EventReader) (handle suffix : Text) : Option Text :=
  if handle = [] then some suffix else (r.handles.lookup handle).map (· ++ suffix)

/-- Reads a node from tokens of which the first one is known. Lists and maps that are shown by
indentation count if `block` is set, and those that are not indented if `level` is set too. -/
def readNode (r : EventReader) (block level : Bool) (tokens : List Token) : Step :=
  match tokens with
  | [] => none
  | .alias name :: tokens => some (.alias name, r.resume tokens)
  | _ => do
    let (anchor, written, tokens) := readProperties tokens
    let tag ← match written with
      | none => some none
      | some (handle, suffix) => (r.fullTag? handle suffix).map some
    let properties : Properties := ⟨anchor, tag⟩
    match tokens with
    | [] => none
    | .blockEntry :: _ =>
      if level then some (.listStart properties, { r with tokens, phase := .levelItem })
      else if anchor.isSome || tag.isSome then
        some (.scalar properties .plain [], r.resume tokens)
      else none
    | .scalar style text :: tokens =>
      let properties := if tag = some ['!'] then { properties with tag := none } else properties
      some (.scalar properties style text, r.resume tokens)
    | .flowListStart :: tokens =>
      some (.listStart properties, { r with tokens, phase := .flowItem true })
    | .flowMapStart :: tokens =>
      some (.mapStart properties, { r with tokens, phase := .flowKey true })
    | token :: rest =>
      if block ∧ token = .blockListStart then
        some (.listStart properties, { r with tokens := rest, phase := .blockItem })
      else if block ∧ token = .blockMapStart then
        some (.mapStart properties, { r with tokens := rest, phase := .blockKey })
      else if anchor.isSome || tag.isSome then
        some (.scalar properties .plain [], r.resume tokens)
      else none

/-- Reads a node after which a phase comes, or takes it as missing before one of some tokens. -/
def readNodeUnless (r : EventReader) (block level : Bool) (stops : List Token) (tokens : List Token)
    (next : Phase) : Step :=
  match tokens with
  | [] => none
  | token :: _ =>
    if token ∈ stops then r.missing tokens next
    else (r.await next).readNode block level tokens

/-- Reads the content of a document. -/
def readContent (r : EventReader) : Step :=
  match r.tokens with
  | [] => none
  | .versionDirective .. :: _ | .tagDirective .. :: _ | .documentStart :: _ | .documentEnd :: _
  | .streamEnd :: _ => some (.missing, r.resume r.tokens)
  | tokens => r.readNode true false tokens

/-- Ends a document. -/
def endDocument (r : EventReader) : Step :=
  match r.tokens with
  | [] => none
  | .documentEnd :: tokens => some (.documentEnd, { r with tokens, phase := .nextDocument })
  | _ => some (.documentEnd, { r with phase := .nextDocument })

def readBlockItem (r : EventReader) : Step :=
  match r.tokens with
  | .blockEntry :: tokens =>
    r.readNodeUnless true false [.blockEntry, .blockEnd] tokens .blockItem
  | .blockEnd :: tokens => some (.listEnd, r.resume tokens)
  | _ => none

def readLevelItem (r : EventReader) : Step :=
  match r.tokens with
  | [] => none
  | .blockEntry :: tokens =>
    r.readNodeUnless true false [.blockEntry, .key, .value, .blockEnd] tokens .levelItem
  | tokens => some (.listEnd, r.resume tokens)

def readBlockKey (r : EventReader) : Step :=
  match r.tokens with
  | .key :: tokens => r.readNodeUnless true true [.key, .value, .blockEnd] tokens .blockValue
  | .blockEnd :: tokens => some (.mapEnd, r.resume tokens)
  | _ => none

def readBlockValue (r : EventReader) : Step :=
  match r.tokens with
  | [] => none
  | .value :: tokens => r.readNodeUnless true true [.key, .value, .blockEnd] tokens .blockKey
  | tokens => r.missing tokens .blockKey

/-- Goes over the comma before an item or a key that is not the first one. -/
def skipComma? (first : Bool) (tokens : List Token) : Option (List Token) :=
  if first then some tokens
  else
    match tokens with
    | .flowEntry :: tokens => some tokens
    | _ => none

def readFlowItem (r : EventReader) (first : Bool) : Step :=
  match r.tokens with
  | [] => none
  | .flowListEnd :: tokens => some (.listEnd, r.resume tokens)
  | tokens => do
    match ← skipComma? first tokens with
    | [] => none
    | .flowListEnd :: tokens => some (.listEnd, r.resume tokens)
    | .key :: tokens => some (.mapStart {}, { r with tokens, phase := .singleKey })
    | tokens => (r.await (.flowItem false)).readNode false false tokens

def readSingleKey (r : EventReader) : Step :=
  match r.tokens with
  | [] => none
  | token :: rest =>
    if token ∈ [.value, .flowEntry, .flowListEnd] then r.missing rest .singleValue
    else (r.await .singleValue).readNode false false r.tokens

def readSingleValue (r : EventReader) : Step :=
  match r.tokens with
  | [] => none
  | .value :: tokens => r.readNodeUnless false false [.flowEntry, .flowListEnd] tokens .singleEnd
  | tokens => r.missing tokens .singleEnd

def readFlowKey (r : EventReader) (first : Bool) : Step :=
  match r.tokens with
  | [] => none
  | .flowMapEnd :: tokens => some (.mapEnd, r.resume tokens)
  | tokens => do
    match ← skipComma? first tokens with
    | [] => none
    | .flowMapEnd :: tokens => some (.mapEnd, r.resume tokens)
    | .key :: tokens =>
      r.readNodeUnless false false [.value, .flowEntry, .flowMapEnd] tokens .flowValue
    | tokens => (r.await .flowNoValue).readNode false false tokens

def readFlowValue (r : EventReader) : Step :=
  match r.tokens with
  | [] => none
  | .value :: tokens =>
    r.readNodeUnless false false [.flowEntry, .flowMapEnd] tokens (.flowKey false)
  | tokens => r.missing tokens (.flowKey false)

/-- Reads the next event. -/
def step (r : EventReader) : Step :=
  match r.phase with
  | .firstDocument => r.beginFirstDocument
  | .nextDocument => r.beginDocument
  | .documentContent => r.readContent
  | .documentRest => r.endDocument
  | .blockNode => r.readNode true false r.tokens
  | .blockItem => r.readBlockItem
  | .levelItem => r.readLevelItem
  | .blockKey => r.readBlockKey
  | .blockValue => r.readBlockValue
  | .flowItem first => r.readFlowItem first
  | .singleKey => r.readSingleKey
  | .singleValue => r.readSingleValue
  | .singleEnd => if r.tokens = [] then none else some (.mapEnd, { r with phase := .flowItem false })
  | .flowKey first => r.readFlowKey first
  | .flowValue => r.readFlowValue
  | .flowNoValue => if r.tokens = [] then none else r.missing r.tokens (.flowKey false)
  | .finished => none

/-- The events that follow, up to the first fault. -/
def events (r : EventReader) : (fuel : Nat) → List Event
  | 0 => []
  | fuel + 1 =>
    match r.step with
    | none => []
    | some (event, next) => event :: next.events fuel

end EventReader

/-- The events of a text, up to the first fault. A token gives rise to a few events at most. -/
def events (t : Text) : List Event :=
  let tokens := tokens t
  EventReader.events { tokens } (8 * tokens.length + 8)

end PubList.Yaml
