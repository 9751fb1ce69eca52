import PubList.Json.Token

/-!
# Reading JSON

The tokens of a JSON text are taken one by one by a machine that keeps the lists and maps that are
still open. At most 127 of them may be open at once.
-/

namespace PubList.Json

/-- A list or a map that is still open, with its parts in reverse order, or the member of a map that
waits for its value. -/
inductive Open where
  | list (items : List Data)
  | map (members : List (Text × Data))
  | member (name : Text)

/-- What may come next. -/
inductive Expectation where
  | value
  /-- The first item of a list, or its end. -/
  | firstItem
  /-- The first name in a map, or its end. -/
  | firstName
  | name
  | colon (name : Text)
  /-- A comma or the end of what is open. -/
  | comma
  /-- The end of the text, after the value that was read. -/
  | finished (value : Data)

structure Machine where
  stack : List Open
  expects : Expectation

def maxOpen : Nat := 127

namespace Machine

def start : Machine := ⟨[], .value⟩

/-- How many lists and maps are open. -/
def depth (m : Machine) : Nat :=
  m.stack.countP fun
    | .member _ => false
    | _ => true

/-- Puts a value where it belongs: into what is open, or at the end of the reading. -/
def put (value : Data) : List Open → Option Machine
  | [] => some ⟨[], .finished value⟩
  | .list items :: stack => some ⟨.list (value :: items) :: stack, .comma⟩
  | .member name :: .map members :: stack => some ⟨.map ((name, value) :: members) :: stack, .comma⟩
  | _ => none

/-- Opens a list or a map. -/
def push (m : Machine) (container : Open) (expects : Expectation) : Option Machine :=
  if m.depth < maxOpen then some ⟨container :: m.stack, expects⟩ else none

/-- Takes a token that begins a value. -/
def beginValue (m : Machine) : Token → Option Machine
  | .plain value => put value m.stack
  | .text t => put (.text t) m.stack
  | .openList => m.push (.list []) .firstItem
  | .openMap => m.push (.map []) .firstName
  | _ => none

/-- Closes the list or the map on top. -/
def close (m : Machine) (token : Token) : Option Machine :=
  match token, m.stack with
  | .closeList, .list items :: stack => put (.list items.reverse) stack
  | .closeMap, .map members :: stack => put (.map members.reverse) stack
  | _, _ => none

/-- Takes a token. -/
def step (m : Machine) (token : Token) : Option Machine :=
  match m.expects, token with
  | .value, token => m.beginValue token
  | .firstItem, .closeList => m.close .closeList
  | .firstItem, token => m.beginValue token
  | .firstName, .closeMap => m.close .closeMap
  | .firstName, .text name => some ⟨m.stack, .colon name⟩
  | .name, .text name => some ⟨m.stack, .colon name⟩
  | .colon name, .colon => some ⟨.member name :: m.stack, .value⟩
  | .comma, .comma =>
    match m.stack with
    | .map _ :: _ => some ⟨m.stack, .name⟩
    | _ => some ⟨m.stack, .value⟩
  | .comma, token => m.close token
  | _, _ => none

/-- The value that was read, if the text may end here. -/
def result? (m : Machine) : Option Data :=
  match m.expects with
  | .finished value => some value
  | _ => none

end Machine

/-- Reads a JSON text. -/
def read? (t : Text) : Option Data := do
  let m ← (← tokens? t).foldlM Machine.step .start
  m.result?

end PubList.Json
