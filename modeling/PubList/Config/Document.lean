import PubList.Config.Basic
import PubList.Data.Basic

/-!
# Configurations from documents

A configuration document is a map from the names of settings to their values, or a list of the
values in the order of `Field.all`. What it leaves out has its default.
-/

namespace PubList.Config

/-- The fields in the order in which a list gives their values. -/
def Field.all : List Field := [target, useGroup, groupBy, order]

/-- Gives a field the value that a document holds for it: a text, or true or false. -/
def setData? (c : Config) (field : Field) (value : Data) : Option Config :=
  match field, value with
  | .useGroup, .bool b => some { c with useGroup := b }
  | .useGroup, _ => none
  | field, .text t => (c.setField field t).toOption
  | _, _ => none

/-- Gives the field of a member its value. -/
def setMember? (c : Config) (member : Text × Data) : Option Config :=
  (Field.ofName? member.1).bind fun field => c.setData? field member.2

/-- The configuration that a value describes. -/
def ofData? : Data → Option Config
  | .map members =>
    if (members.map (·.1)).Nodup then members.foldlM setMember? {} else none
  | .list items =>
    if items.length ≤ Field.all.length then
      (Field.all.zip items).foldlM (fun c (field, value) => c.setData? field value) {}
    else none
  | _ => none

end PubList.Config
