import PubList.Group.Partition
import PubList.Template.Block
import PubList.Template.Conditional
import PubList.Template.Placeholder

/-!
# Rendering

A template is rendered from the outside in: placeholders for the whole list, group blocks once per
group, entry blocks once per entry of the group, and in them conditionals before the placeholders
for fields. What a pass does not know it leaves to the next one and in the end to the reader.
-/

namespace PubList.Template

/-- What `@entrykey@` stands for. -/
def entryKeyValue (e : Entry) (name : Text) : Option Text :=
  if name = "entrykey".toList then some e.key else none

/-- Renders the body of an entry block for one entry. -/
def renderEntry (e : Entry) (t : Text) : Text :=
  substitute e.get? (resolve e (substitute (entryKeyValue e) t))

/-- The placeholders that stand for a group: its key, its place and how many entries it has. -/
def groupValue (key : Text) (id count : Nat) (name : Text) : Option Text :=
  if name = "groupkey".toList then some key
  else if name = "groupid".toList then some (Text.ofNat id)
  else if name = "groupcount".toList then some (Text.ofNat count)
  else none

/-- Renders the body of a group block for one group. -/
def renderGroup (key : Text) (id : Nat) (entries : List Entry) (t : Text) : Text :=
  expandBlocks .entry (fun body => entries.flatMap fun e => renderEntry e body)
    (substitute (groupValue key id entries.length) t)

/-- Renders the body of a group block for groups that are numbered from `id` on. -/
def renderGroups (id : Nat) (groups : List Group) (body : Text) : Text :=
  match groups with
  | [] => []
  | g :: groups => renderGroup g.key id g.entries body ++ renderGroups (id + 1) groups body

/-- The placeholders that stand for the whole list: a count that is always zero, how many groups
there are and the name of the grouping. -/
def globalValue (mode : GroupMode) (groupCount : Nat) (name : Text) : Option Text :=
  if name = "globalcount".toList then some ['0']
  else if name = "globalgroupcount".toList then some (Text.ofNat groupCount)
  else if name = "globalkey".toList then some mode.name
  else none

/-- Whether an entry block is opened in a text and not closed in it. -/
def hasUnclosedEntry (t : Text) : Bool :=
  match _h : findBlock? .entry t with
  | none => Text.contains t BlockKind.entry.opener
  | some b => hasUnclosedEntry b.after
termination_by t.length
decreasing_by exact length_after_lt_of_findBlock? _h

/-- Refuses group blocks that hold another opening mark of a group, or an entry block that is not
closed before the group. The text begins at byte `offset` of the template. -/
def checkBlocks (offset : Nat) (t : Text) : Except TemplateError Unit :=
  match _h : findBlock? .group t with
  | none => .ok ()
  | some b =>
    let bodyStart := offset + Text.utf8Size (b.before ++ BlockKind.group.opener)
    let bodyEnd := bodyStart + Text.utf8Size b.body
    match Text.cutAt? BlockKind.group.opener b.body with
    | some (inner, _) => .error (.nestedGroup (bodyStart + Text.utf8Size inner))
    | none =>
      if hasUnclosedEntry b.body then .error (.unclosedEntry bodyEnd)
      else checkBlocks (bodyEnd + Text.utf8Size BlockKind.group.closer) b.after
termination_by t.length
decreasing_by exact length_after_lt_of_findBlock? _h

/-- Renders a template for groups in the order in which they are shown. Group blocks are left as
they are if the configuration says so. -/
def render (config : Config) (groups : List Group) (t : Text) : Except TemplateError Text :=
  let t := substitute (globalValue config.groupBy groups.length) t
  if config.useGroup then do
    checkBlocks 0 t
    return expandBlocks .group (renderGroups 0 groups) t
  else .ok t

end PubList.Template
