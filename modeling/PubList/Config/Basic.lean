import PubList.Error
import PubList.Text.Lowercase

/-!
# The configuration of a rendering

Four settings and their names. A name is read without regard to case and to blanks around it.
-/

namespace PubList

/-- Where the rendered text is headed; the rendering does not depend on it. -/
inductive Target where
  /-- Wiki markup that the host renders further. -/
  | wiki
  /-- Text that is used as it is. -/
  | text
  deriving DecidableEq, Repr

/-- By what the entries are grouped. -/
inductive GroupMode where
  | none
  /-- The first letter of the first author's last name. -/
  | author
  /-- The first letter of the title. -/
  | title
  | year
  deriving DecidableEq, Repr

/-- In which order the groups are shown. -/
inductive GroupOrder where
  | ascending
  | descending
  deriving DecidableEq, Repr

namespace Target

def name : Target → Text
  | wiki => "wiki".toList
  | text => "text".toList

/-- Reads the name of a target. -/
def read (t : Text) : Except ConfigError Target :=
  let key := Text.normalize t
  if key = "wiki".toList then .ok wiki
  else if key = "text".toList then .ok text
  else .error (.unknownTarget key)

end Target

namespace GroupMode

def name : GroupMode → Text
  | none => "none".toList
  | author => "author".toList
  | title => "title".toList
  | year => "year".toList

/-- Reads the name of a grouping. -/
def read (t : Text) : Except ConfigError GroupMode :=
  let key := Text.normalize t
  if key = "none".toList then .ok none
  else if key = "author".toList then .ok author
  else if key = "title".toList then .ok title
  else if key = "year".toList then .ok year
  else .error (.unknownGroupMode key)

end GroupMode

namespace GroupOrder

def name : GroupOrder → Text
  | ascending => "ascending".toList
  | descending => "descending".toList

/-- Reads the name of an order; newest first is descending and oldest first ascending. -/
def read (t : Text) : Except ConfigError GroupOrder :=
  let key := Text.normalize t
  if key = "newest".toList ∨ key = "descending".toList then .ok descending
  else if key = "oldest".toList ∨ key = "ascending".toList then .ok ascending
  else .error (.unknownGroupOrder key)

end GroupOrder

/-- Reads a word for yes or no. -/
def readFlag (t : Text) : Except ConfigError Bool :=
  let key := Text.normalize t
  if ["true", "yes", "on", "1"].any (·.toList = key) then .ok true
  else if ["false", "no", "off", "0"].any (·.toList = key) then .ok false
  else .error (.notBoolean key)

/-- The settings of a rendering. -/
structure Config where
  target : Target := .wiki
  /-- Whether group blocks are expanded. -/
  useGroup : Bool := true
  groupBy : GroupMode := .year
  order : GroupOrder := .descending
  deriving DecidableEq, Repr

namespace Config

/-- The four settings by their names. -/
inductive Field where
  | target
  | useGroup
  | groupBy
  | order
  deriving DecidableEq, Repr

/-- The field with the given name. -/
def Field.ofName? (name : Text) : Option Field :=
  if name = "target".toList then some target
  else if name = "usegroup".toList then some useGroup
  else if name = "groupby".toList then some groupBy
  else if name = "order".toList then some order
  else none

/-- Gives a field the value that a text denotes. -/
def setField (c : Config) (field : Field) (value : Text) : Except ConfigError Config :=
  match field with
  | .target => (Target.read value).map fun target => { c with target }
  | .useGroup => (readFlag value).map fun useGroup => { c with useGroup }
  | .groupBy => (GroupMode.read value).map fun groupBy => { c with groupBy }
  | .order => (GroupOrder.read value).map fun order => { c with order }

/-- Sets a single option by its name. -/
def set (c : Config) (name value : Text) : Except ConfigError Config :=
  let key := Text.normalize name
  match Field.ofName? key with
  | some field => c.setField field value
  | none => .error (.unknownOption key)

end Config

end PubList
