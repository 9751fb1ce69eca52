import PubList.Data.Basic
import PubList.Yaml.Node

/-!
# Values of YAML nodes

Which value a node is: a plain scalar may be a null, a boolean or a number, a quoted one is a text,
and a tag may ask for a certain value. Tags of one's own have no value.
-/

namespace PubList.Yaml

open PubList.Number

def isNullWord (t : Text) : Bool := ["null", "Null", "NULL", "~"].any (·.toList = t)

/-- The boolean that a word stands for. -/
def boolWord? (t : Text) : Option Bool :=
  if ["true", "True", "TRUE"].any (·.toList = t) then some true
  else if ["false", "False", "FALSE"].any (·.toList = t) then some false
  else none

/-- Digits that begin with an idle zero, after an optional sign: a text, not a number. -/
def hasIdleZero (t : Text) : Bool :=
  match (splitSign t).2 with
  | '0' :: c :: t => (c :: t).all Char.isDigit
  | _ => false

/-- A number without a minus sign in base sixteen, eight, two or ten. -/
def readUnsigned? (t : Text) : Option Nat :=
  let digits := match t with
    | '+' :: t => t
    | t => t
  match digits with
  | '0' :: 'x' :: t => readNat? 16 t
  | '0' :: 'o' :: t => readNat? 8 t
  | '0' :: 'b' :: t => readNat? 2 t
  | digits => if hasIdleZero t then none else readNat? 10 digits

/-- A whole number. One with a minus sign has it before everything else. -/
def readInteger? (t : Text) : Option Int :=
  match t with
  | '-' :: '+' :: _ => none
  | '-' :: digits => if hasIdleZero t then none else (readUnsigned? digits).map fun n => -(n : Int)
  | t => (readUnsigned? t).map fun n => (n : Int)

/-- Whether an integer has at most 64 bits, with or without a sign. -/
def isShort (n : Int) : Bool := isInt64 n || (decide (0 ≤ n) && isUInt64 n.toNat)

/-- Whether an integer has at most 128 bits, with or without a sign. -/
def isLong (n : Int) : Bool := decide (-(Nat.pow 2 127 : Int) ≤ n) && decide (n < (Nat.pow 2 128 : Int))

/-- An infinite number, or none at all. -/
def isNotFinite (t : Text) : Bool :=
  [".inf", ".Inf", ".INF", "+.inf", "+.Inf", "+.INF", "-.inf", "-.Inf", "-.INF", ".nan", ".NaN",
    ".NAN"].any (·.toList = t)

/-- The value of a number that is not an integer; one that is not finite is null. -/
def readReal? (t : Text) : Option Data :=
  if isNotFinite t then some .null
  else
    match t with
    | '+' :: '-' :: _ | '+' :: '+' :: _ => none
    | t => do
      let x ← Binary64.ofDecimal? (← Decimal.read? t)
      return .number (.real x)

/-- What an integer is as a value: nothing where it needs more than 64 bits but no more than 128,
and not an integer where it needs more. -/
inductive IntegerValue where
  | short (n : Int)
  | outOfRange
  | noInteger

def integerValue (t : Text) : IntegerValue :=
  match readInteger? t with
  | none => .noInteger
  | some n => if isShort n then .short n else if isLong n then .outOfRange else .noInteger

/-- The value of a plain scalar without a tag. -/
def plainData? (t : Text) : Option Data :=
  if t = [] ∨ isNullWord t then some .null
  else
    match boolWord? t with
    | some b => some (.bool b)
    | none =>
      match integerValue t with
      | .short n => some (.number (.integer n))
      | .outOfRange => none
      | .noInteger => if hasIdleZero t then some (.text t) else (readReal? t).getD (.text t)

/-- Whether a tag is one of one's own. -/
def isOwnTag (tag : Option Text) : Bool :=
  match tag with
  | some ('!' :: _) => true
  | _ => false

/-- The tag of a value that every reader knows. -/
def coreTag (name : String) : Text := "tag:yaml.org,2002:".toList ++ name.toList

/-- The value of a scalar. -/
def scalarData? (tag : Option Text) (style : ScalarStyle) (t : Text) : Option Data :=
  match tag with
  | none => if style = .plain then plainData? t else some (.text t)
  | some tag =>
    if isOwnTag (some tag) then none
    else if tag = coreTag "bool" then (boolWord? t).map .bool
    else if tag = coreTag "int" then
      match integerValue t with
      | .short n => some (.number (.integer n))
      | _ => none
    else if tag = coreTag "float" then readReal? t
    else if tag = coreTag "null" then if isNullWord t then some .null else none
    else some (.text t)

namespace Node

/-- The text of a scalar, as it stands. -/
def scalarText? : Node → Option Text
  | scalar _ _ t => some t
  | _ => none

mutual

/-- The value of a node. -/
def toData? : Node → Option Data
  | scalar tag style t => scalarData? tag style t
  | list tag nodes => if isOwnTag tag then none else (itemsData? nodes).map .list
  | map tag members => if isOwnTag tag then none else (membersData? members).map .map
  | broken => none

def itemsData? : List Node → Option (List Data)
  | [] => some []
  | node :: nodes => do
    let value ← node.toData?
    let values ← itemsData? nodes
    return value :: values

/-- The members of a map; their names are scalars. -/
def membersData? : List (Node × Node) → Option (List (Text × Data))
  | [] => some []
  | (key, node) :: members => do
    let name ← key.scalarText?
    let value ← node.toData?
    let values ← membersData? members
    return (name, value) :: values

end

/-- Whether a node is nothing at all. -/
def isMissing : Node → Bool
  | scalar _ .plain [] => true
  | _ => false

end Node

end PubList.Yaml
