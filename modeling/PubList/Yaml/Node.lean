import PubList.Yaml.Event

/-!
# Documents as trees

The first document of a YAML text as a tree in which every alias is replaced by what it stands for.
Where the text turns out to be wrong, or its aliases lead too far, the tree breaks off: a reader
that goes through it from left to right finds a broken node there.
-/

namespace PubList.Yaml

inductive Node where
  | scalar (tag : Option Text) (style : ScalarStyle) (text : Text)
  | list (tag : Option Text) (items : List Node)
  | map (tag : Option Text) (members : List (Node × Node))
  | broken
  deriving Repr

/-- A part of a document. The anchors are numbers now. -/
inductive Part where
  | alias (number : Nat)
  | scalar (tag : Option Text) (style : ScalarStyle) (text : Text)
  | listStart (tag : Option Text)
  | listEnd
  | mapStart (tag : Option Text)
  | mapEnd

/-- The parts of a document, and where the node with a number begins. -/
structure Parts where
  parts : Array Part := #[]
  targets : List (Nat × Nat) := []
  /-- The numbers of the names that are known. -/
  numbers : List (Text × Nat) := []

namespace Parts

/-- Notes that the next part has an anchor. It gets the number of names that are known so far, and
a number means the node that got it last. -/
def note (p : Parts) (properties : Properties) : Parts :=
  match properties.anchor with
  | none => p
  | some name =>
    let number := p.numbers.length
    { p with
      numbers := (name, number) :: p.numbers.filter (·.1 ≠ name)
      targets := (number, p.parts.size) :: p.targets }

def add (p : Parts) (part : Part) : Parts := { p with parts := p.parts.push part }

/-- Takes the events of a document up to its end: its parts, and the events behind it unless an
alias has no anchor or the events break off. -/
def collect (p : Parts) : List Event → Parts × Option (List Event)
  | [] => (p, none)
  | .documentEnd :: events => (p, some events)
  | .alias name :: events =>
    match p.numbers.lookup name with
    | some number => (p.add (.alias number)).collect events
    | none => (p, none)
  | .scalar properties style text :: events =>
    ((p.note properties).add (.scalar properties.tag style text)).collect events
  | .listStart properties :: events =>
    ((p.note properties).add (.listStart properties.tag)).collect events
  | .listEnd :: events => (p.add .listEnd).collect events
  | .mapStart properties :: events =>
    ((p.note properties).add (.mapStart properties.tag)).collect events
  | .mapEnd :: events => (p.add .mapEnd).collect events
  | _ :: events => p.collect events

/-- A place among the parts, and how many aliases have been followed. -/
structure Cursor where
  position : Nat := 0
  followed : Nat := 0

def Cursor.next (c : Cursor) : Cursor := { c with position := c.position + 1 }

/-- How many lists and maps may lie inside one another. -/
def maxDepth : Nat := 128

mutual

/-- The node that begins with a part, where `c` is behind that part. There is no place behind a node
that breaks off. -/
def nodeFrom (p : Parts) (depth : Nat) (part : Part) (c : Cursor) : Node × Option Cursor :=
  match part, depth with
  | .scalar tag style text, _ => (.scalar tag style text, some c)
  | .listStart tag, depth + 1 =>
    let (items, c) := p.items depth p.parts.size c
    (.list tag items, c)
  | .mapStart tag, depth + 1 =>
    let (members, c) := p.members depth p.parts.size c
    (.map tag members, c)
  | _, _ => (.broken, none)
termination_by (depth, 0)

/-- The node at a place. Of `n` parts at most `100 * n` aliases may be followed. -/
def node (p : Parts) (depth : Nat) (c : Cursor) : Node × Option Cursor :=
  match p.parts[c.position]? with
  | none => (.broken, none)
  | some (.alias number) =>
    if c.followed + 1 > 100 * p.parts.size then (.broken, none)
    else
      let target := (p.targets.lookup number).getD 0
      match p.parts[target]? with
      | none => (.broken, none)
      | some part =>
        let (node, behind) := p.nodeFrom depth part ⟨target + 1, c.followed + 1⟩
        (node, behind.map fun behind => ⟨c.position + 1, behind.followed⟩)
  | some part => p.nodeFrom depth part c.next
termination_by (depth, 1)

/-- The items of a list from a place on; there are at most `fuel` parts. -/
def items (p : Parts) (depth : Nat) (fuel : Nat) (c : Cursor) : List Node × Option Cursor :=
  match fuel with
  | 0 => ([.broken], none)
  | fuel + 1 =>
    match p.parts[c.position]? with
    | some .listEnd => ([], some c.next)
    | _ =>
      match p.node depth c with
      | (node, none) => ([node], none)
      | (node, some c) =>
        let (nodes, c) := p.items depth fuel c
        (node :: nodes, c)
termination_by (depth, fuel + 2)

/-- The members of a map from a place on; there are at most `fuel` parts. -/
def members (p : Parts) (depth : Nat) (fuel : Nat) (c : Cursor) :
    List (Node × Node) × Option Cursor :=
  match fuel with
  | 0 => ([(.broken, .broken)], none)
  | fuel + 1 =>
    match p.parts[c.position]? with
    | some .mapEnd => ([], some c.next)
    | _ =>
      match p.node depth c with
      | (key, none) => ([(key, .broken)], none)
      | (key, some c) =>
        match p.node depth c with
        | (value, none) => ([(key, value)], none)
        | (value, some c) =>
          let (members, c) := p.members depth fuel c
          ((key, value) :: members, c)
termination_by (depth, fuel + 2)

end

end Parts

/-- The first document of a text. -/
structure Document where
  /-- Its root; nothing if the text is empty. -/
  root : Option Node
  /-- Whether nothing is wrong behind the root, and no other document follows. -/
  alone : Bool

/-- Reads the first document of a text. -/
def Document.read (t : Text) : Document :=
  match events t with
  | [.streamEnd] => ⟨none, true⟩
  | events =>
    let (parts, behind) := ({} : Parts).collect events
    ⟨some (parts.node Parts.maxDepth {}).1, behind = some [.streamEnd]⟩

end PubList.Yaml
