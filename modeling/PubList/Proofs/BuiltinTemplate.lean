import PubList.Proofs.Denotation
import PubList.Proofs.GroupKey.Origin
import PubList.Proofs.Grouping
import PubList.Proofs.Leftover
import PubList.Proofs.Spacing
import PubList.Template.Builtin

/-!
# The meaning of the built-in template

The built-in template is the text of a tree (`builtin_eq`): in a group block a heading and an entry
block, and in the entry block `bulletBody`. Its literals are not all `IsLiteral`. There is a low line
between two placeholders, a text that begins with a brace behind the head of a conditional, and one
that begins with a question mark behind `@url@`. But `bulletBody` is `Fragment.Spaced`, so that the
passes over the flat text see the tree (`render_builtin`).
-/

namespace PubList.Template

open Text (IsWord isWordChar)

/-! ## The tree of the template -/

namespace Fragment

/-- A literal in front of the rest. -/
def say (t : String) (rest : Fragment) : Fragment := literal t.toList rest

/-- A placeholder in front of the rest. -/
def put (name : String) (rest : Fragment) : Fragment := mark name.toList rest

/-- A part that is shown if the entry has the field, in front of the rest. -/
def given (field : String) (yes rest : Fragment) : Fragment := ifThen ⟨field.toList, none⟩ yes rest

/-- A text that ends in the name of a foldable part: it tells apart the groupings, the groups and the
entries of one page. -/
def sayName (t : String) (rest : Fragment) : Fragment :=
  say t <| put "globalkey" <| say "_" <| put "groupid" <| say "_" <| put "key" rest

/-- The body of the entry block: a bullet with a hover text, links and foldable parts where the entry
has the fields for them. -/
def bulletBody : Fragment :=
  say "\n  * " <|
  given "summary"
    (say "<popover placement=\"top\" trigger=\"hover\" title=\"" <| put "title" <|
      say "\" content=\"" <| put "summary" <| say "\">" nil) <|
  say " **" <| put "title" <| say "** " <| put "author" <| say " (" <|
  given "year" (given "month" (put "month" <| say " " nil) <| put "year" nil) <|
  say "). " <|
  given "booktitle" (say "In //" <| put "booktitle" <| say "//." nil) <|
  say " " <|
  given "journal"
    (say "//" <| put "journal" <| say "//" <|
      given "volume"
        (say " " <| put "volume" <| given "number" (say " (" <| put "number" <| say ")" nil) nil) <|
      say " " nil) <|
  say " " <|
  given "pages" (say " pp. " <| put "pages" <| say "." nil) <|
  say " " <|
  given "institution" (say " //" <| put "institution" <| say "//." nil) <|
  given "publisher" (say " " <| put "publisher" <| say "." nil) <|
  say " " <|
  given "address" (say " " <| put "address" <| say "." nil) <|
  given "summary" (say "</popover>" nil) <|
  say " " <|
  given "doi"
    (say "<button type=\"link\" size=\"xs\" icon=\"fa fa-book\">[[http://dx.doi.org/" <|
      put "doi" <| say "|DOI]]</button>" nil) <|
  given "url" (say "\x7b\x7bpublications:pdf:" <| put "url" <| say "?linkonly\x7d\x7d" nil) <|
  say " " <|
  given "bibtex"
    (sayName "<button collapse=\"b_" <|
      say "\" type=\"link\" size=\"xs\" icon=\"fa fa-file-text\">BibTex</button>" nil) <|
  given "abstract"
    (sayName "<button collapse=\"a_" <|
      say "\" type=\"link\" size=\"xs\" icon=\"fa fa-comment\">Abstract</button>" nil) <|
  say " " <|
  given "bibtex"
    (sayName "<collapse id=\"b_" <| say "\" collapsed=\"true\"><code bibtex>" <| put "bibtex" <|
      say "</code></collapse>" nil) <|
  say " " <|
  given "abstract"
    (sayName "<collapse id=\"a_" <| say "\" collapsed=\"true\"><well size=\"sm\">" <|
      put "abstract" <| say "</well></collapse>" nil) <|
  say "\n" nil

/-! Strings are compared much faster than the lists of their characters. -/

/-- The text of a fragment as a string. -/
def source : Fragment → String
  | nil => ""
  | literal t rest => String.ofList t ++ rest.source
  | mark name rest => String.ofList (placeholder name) ++ rest.source
  | ifThen c yes rest =>
    String.ofList (placeholder c.question) ++ yes.source ++
      String.ofList (placeholder (';' :: c.field)) ++ rest.source
  | ifElse c yes no rest =>
    String.ofList (placeholder c.question) ++ yes.source ++
      String.ofList (placeholder (':' :: c.field)) ++ no.source ++
      String.ofList (placeholder (';' :: c.field)) ++ rest.source

theorem toList_source (f : Fragment) : f.source.toList = f.text := by
  induction f with
  | nil => rfl
  | literal t rest ih => simp [source, text, ih]
  | mark name rest ih => simp [source, text, ih]
  | ifThen c yes rest ihyes ihrest => simp [source, text_ifThen, ihyes, ihrest]
  | ifElse c yes no rest ihyes ihno ihrest => simp [source, text_ifElse, ihyes, ihno, ihrest]

theorem source_say (t : String) (rest : Fragment) : (say t rest).source = t ++ rest.source := by
  simp [say, source]

theorem source_put (name : String) (rest : Fragment) :
    (put name rest).source = "@" ++ name ++ "@" ++ rest.source := by
  apply String.toList_injective
  simp [put, source, placeholder]

theorem source_given (field : String) (yes rest : Fragment) :
    (given field yes rest).source =
      "@?" ++ field ++ "@" ++ yes.source ++ "@;" ++ field ++ "@" ++ rest.source := by
  apply String.toList_injective
  simp [given, source, placeholder, Condition.question, Condition.testText]

theorem spaced_bulletBody : bulletBody.Spaced := by decide +kernel

theorem starts_bulletBody : bulletBody.Starts (Bars earlyMarks) := by decide

end Fragment

open Fragment (bulletBody)

/-- The heading of a group. -/
def heading (key : Text) : Text := "\n=== ".toList ++ key ++ " ===\n".toList

/-- The body of the group block, with what stands for the key and in the entry block: the heading, the
entry block, and the end of the line. -/
def groupBlock (key body : Text) : Text := heading key ++ marked .entry body ++ "\n".toList

theorem flatMap_toList (lines : List String) :
    lines.flatMap String.toList = (lines.foldr (· ++ ·) "").toList := by
  induction lines with
  | nil => rfl
  | cons line lines ih => rw [List.flatMap_cons, ih, List.foldr_cons, String.toList_append]

theorem builtin_eq_toList :
    builtin = ("@\x7bgroup@" ++ ("\n=== " ++ "@groupkey@" ++ " ===\n" ++
      ("@\x7bentry@" ++ bulletBody.source ++ "@\x7dentry@") ++ "\n") ++ "@\x7dgroup@" ++
        "\n").toList := by
  refine (flatMap_toList _).trans (congrArg String.toList ?_)
  simp only [bulletBody, Fragment.sayName, Fragment.source_say, Fragment.source_put,
    Fragment.source_given]
  decide +kernel

theorem toList_groupBlock (body : String) :
    ("@\x7bgroup@" ++ ("\n=== " ++ "@groupkey@" ++ " ===\n" ++
      ("@\x7bentry@" ++ body ++ "@\x7dentry@") ++ "\n") ++ "@\x7dgroup@" ++ "\n").toList =
        marked .group (groupBlock (placeholder "groupkey".toList) body.toList) ++ "\n".toList := by
  repeat rw [String.toList_append]
  rfl

/-- The built-in template is the text of its tree. -/
theorem builtin_eq :
    builtin =
      marked .group (groupBlock (placeholder "groupkey".toList) bulletBody.text) ++ "\n".toList := by
  rw [← Fragment.toList_source, ← toList_groupBlock]
  exact builtin_eq_toList

/-! ## Passes over a group block -/

theorem at_not_mem_heading {key : Text} (hkey : '@' ∉ key) : '@' ∉ heading key := by
  intro hmem
  rcases List.mem_append.1 hmem with hmem | hmem
  · exact (List.mem_append.1 hmem).elim (absurd · (by decide)) hkey
  · exact absurd hmem (by decide)

section GroupBlock

variable {lookup : Text → Option Text} {key key' body body' : Text}

theorem fills_groupBlock (hkey : Fills lookup key key') (hbody : Fills lookup body body') :
    Fills lookup (groupBlock key body) (groupBlock key' body') := by
  have hstart : Fills lookup "\n=== ".toList "\n=== ".toList := IsLiteral.fills (by decide)
  have hend : Fills lookup " ===\n".toList " ===\n".toList := IsLiteral.fills (by decide)
  have hline : Fills lookup "\n".toList "\n".toList := IsLiteral.fills (by decide)
  exact (((hstart.append hkey).append hend).append (fills_marked hbody)).append hline

theorem skips_groupBlock {k : Char} (hk : k ∈ braces) (hkey : Skips (k :: BlockKind.group.name) key)
    (hbody : Skips (k :: BlockKind.group.name) body) :
    Skips (k :: BlockKind.group.name) (groupBlock key body) := by
  have hskips {t : Text} (ht : IsLiteral t) : Skips (k :: BlockKind.group.name) t :=
    ht.skips (mem_allHeads_of_mem_braces hk) _
  have hstart := hskips (show IsLiteral "\n=== ".toList by decide)
  have hend := hskips (show IsLiteral " ===\n".toList by decide)
  have hline := hskips (show IsLiteral "\n".toList by decide)
  exact (((hstart.append hkey).append hend).append (skips_marked_entry hk hbody)).append hline

theorem hasUnclosedEntry_groupBlock (hkey : Skips ('\x7b' :: BlockKind.entry.name) key)
    (hbody : PassesCloser .entry body) : hasUnclosedEntry (groupBlock key body) = false := by
  have hstart : Skips ('\x7b' :: BlockKind.entry.name) "\n=== ".toList :=
    IsLiteral.skips (by decide) (by decide) _
  have hend : Skips ('\x7b' :: BlockKind.entry.name) " ===\n".toList :=
    IsLiteral.skips (by decide) (by decide) _
  have hheading : Skips ('\x7b' :: BlockKind.entry.name) (heading key) :=
    (hstart.append hkey).append hend
  rw [groupBlock, List.append_assoc, hasUnclosedEntry_marked hheading.passes hbody]
  exact hasUnclosedEntry_of_passes (passesOpener_of_not_mem (by decide))

/-- Where the key is put in, the entry block is found. -/
theorem expandBlocks_groupBlock (expand : Text → Text) (hkey : '@' ∉ key)
    (hbody : PassesCloser .entry body) :
    expandBlocks .entry expand (groupBlock key body) =
      heading key ++ expand body ++ "\n".toList := by
  have hline : expandBlocks .entry expand "\n".toList = "\n".toList :=
    expandBlocks_of_none expand (findBlock?_eq_none (passesOpener_of_not_mem (by decide)))
  rw [groupBlock, List.append_assoc,
    expandBlocks_marked expand (passesOpener_of_not_mem (at_not_mem_heading hkey)) hbody, hline,
    List.append_assoc]

end GroupBlock

/-! ## What the template means -/

/-- The values of the placeholders of a bullet. -/
def bulletValue (modeName : Text) (id : Nat) (e : Entry) (name : Text) : Option Text :=
  if name = "globalkey".toList then some modeName
  else if name = "groupid".toList then some (Text.ofNat id)
  else e.get? name

/-- The bullet of an entry in the group with the given place. -/
def bullet (modeName : Text) (id : Nat) (e : Entry) : Text :=
  bulletBody.denote (bulletValue modeName id e) e

/-- A heading, a bullet for each entry of the group, and the end of the line. -/
def bulletList (modeName : Text) (id : Nat) (g : Group) : Text :=
  heading g.key ++ g.entries.flatMap (bullet modeName id) ++ "\n".toList

/-- The placeholders for a title and an author that the entry does not have. -/
def missingMarks (e : Entry) : List Text :=
  ([Entry.titleName, Entry.authorName].filter fun name => e.get? name = none).map placeholder

section Render

variable (mode : GroupMode) (n : Nat)

theorem globalValue_groupkey : globalValue mode n "groupkey".toList = none := by
  rw [Option.eq_none_iff_forall_ne_some]
  intro v hv
  exact absurd (globalValue_eq_some hv).1 (by decide)

/-- The pass for the list leaves the placeholder for the group key and fills the bullets. -/
theorem substitute_builtin :
    substitute (globalValue mode n) builtin =
      marked .group (groupBlock (placeholder "groupkey".toList)
        (bulletBody.fill (globalValue mode n)).text) ++ "\n".toList := by
  have hkey : Fills (globalValue mode n) (placeholder "groupkey".toList)
      (placeholder "groupkey".toList) :=
    Fills.mark (by decide) fun _ => globalValue_groupkey mode n
  have hbody := Fragment.spaced_bulletBody.fills_fill Fragment.starts_bulletBody tame_none
    (tame_global mode n)
  rw [Fragment.fill_none] at hbody
  have hline : Fills (globalValue mode n) "\n".toList "\n".toList := IsLiteral.fills (by decide)
  rw [builtin_eq]
  exact ((fills_marked (fills_groupBlock hkey hbody)).append hline).carries.substitute_eq

/-- The group block is accepted and found. -/
theorem checkBlocks_expandBlocks_builtin (expand : Text → Text) :
    checkBlocks 0 (substitute (globalValue mode n) builtin) = .ok () ∧
      expandBlocks .group expand (substitute (globalValue mode n) builtin) =
        expand (groupBlock (placeholder "groupkey".toList)
          (bulletBody.fill (globalValue mode n)).text) ++ "\n".toList := by
  have htame := tame_global mode n
  -- The name of a placeholder is a word, so no marker begins there.
  have hkey {k : Char} (hk : k ∈ braces) (kind : BlockKind) :
      Skips (k :: kind.name) (placeholder "groupkey".toList) := by
    refine Skips.mark (not_word_of_mem_braces hk).1 (not_at_mem_of_isWord kind.isWord_name)
      (by decide) fun h => ?_
    have hword : k ∈ "groupkey".toList := by
      rw [h]
      exact List.mem_cons_self
    exact not_mem_of_isWord (by decide) (not_word_of_mem_braces hk).2 hword
  have hskips {k : Char} (hk : k ∈ braces) := skips_groupBlock hk (hkey hk .group)
    (Fragment.spaced_bulletBody.skips_marker Fragment.starts_bulletBody htame hk .group)
  have hentries := hasUnclosedEntry_groupBlock (hkey (by decide) .entry)
    (Fragment.spaced_bulletBody.passes_marker htame (k := '\x7d') (by decide) .entry)
  have hnil {kind : BlockKind} : PassesOpener kind [] := Passes.nil _
  have hline {kind : BlockKind} : PassesOpener kind "\n".toList :=
    passesOpener_of_not_mem (by decide)
  rw [substitute_builtin]
  constructor
  · obtain ⟨offset, hcheck⟩ := checkBlocks_marked hnil (hskips (by decide)).passes
      (hskips (by decide)).passes hentries 0 "\n".toList
    exact hcheck.trans (checkBlocks_of_passes hline offset)
  · have hexpand := expandBlocks_marked expand hnil (hskips (by decide)).passes "\n".toList
    exact hexpand.trans (congrArg (expand _ ++ ·) (expandBlocks_of_none expand
      (findBlock?_eq_none hline)))

/-- The values that are put in for the list, for a group and for an entry are those of its bullet. -/
theorem denote_bulletBody (key : Text) (id count : Nat) (e : Entry) :
    bulletBody.denote (firstOf (firstOf (firstOf (globalValue mode n) (groupValue key id count))
      (entryKeyValue e)) e.get?) e = bullet mode.name id e := by
  refine Fragment.denote_congr (fun name hname => ?_) e
  -- The values differ for other reserved names only, and a bullet has none of them.
  have hunused : ∀ name ∈ bulletBody.marks,
      name ∉ ["globalcount", "globalgroupcount", "groupkey", "groupcount", "entrykey"].map
        String.toList := by
    decide +kernel
  have hne := hunused name hname
  simp only [List.map_cons, List.map_nil, List.mem_cons, List.not_mem_nil, or_false, not_or] at hne
  obtain ⟨h1, h2, h3, h4, h5⟩ := hne
  rw [firstOf, firstOf, firstOf, globalValue, groupValue, entryKeyValue, bulletValue, if_neg h1,
    if_neg h2, if_neg h3, if_neg h4, if_neg h5]
  split
  · rfl
  · split <;> rfl

/-- One group of the built-in template. -/
theorem renderGroup_builtin {g : Group} (hkey : '@' ∉ g.key)
    (hentries : ∀ e ∈ g.entries, '@' ∉ e.key) (id : Nat) :
    renderGroup g.key id g.entries (groupBlock (placeholder "groupkey".toList)
      (bulletBody.fill (globalValue mode n)).text) = bulletList mode.name id g := by
  have hglobal := tame_global mode n
  have hgroup := tame_group hkey id g.entries.length
  have hknown := hglobal.firstOf hgroup
  have hname : Fills (groupValue g.key id g.entries.length) (placeholder "groupkey".toList) g.key :=
    Fills.known (by decide) rfl
  have hbody := Fragment.spaced_bulletBody.fills_fill Fragment.starts_bulletBody hglobal hgroup
  have hmarker := Fragment.spaced_bulletBody.passes_marker hknown (k := '\x7d') (by decide) .entry
  rw [renderGroup, (fills_groupBlock hname hbody).carries.substitute_eq,
    expandBlocks_groupBlock _ hkey hmarker, bulletList]
  congr 2
  refine flatMap_congr fun e he => ?_
  rw [Fragment.spaced_bulletBody.renderEntry_fill hknown
    (fun _ => firstOf_isSome mode n g.key id g.entries.length) (hentries e he), denote_bulletBody]

end Render

/-! ## What is left of the placeholders -/

/-- In a bullet, only the placeholders for a title and an author can be left. -/
theorem onlyMarks_bullet (mode : GroupMode) (id : Nat) {e : Entry} (he : e.Lacks '@') :
    OnlyMarks (missingMarks e) (bullet mode.name id e) := by
  have hvalue (name v : Text) (h : bulletValue mode.name id e name = some v) : '@' ∉ v := by
    rw [bulletValue] at h
    split at h
    · cases h
      cases mode <;> decide
    split at h
    · cases h
      exact not_at_mem_of_isWord (isWord_ofNat id)
    · exact he.not_mem_of_get? h
  have hfields (name : Text) (h : bulletValue mode.name id e name = none) : e.get? name = none := by
    rw [bulletValue] at h
    split at h
    · cases h
    split at h
    · cases h
    · exact h
  have hmarks : OnlyMarks (Fragment.missing (bulletValue mode.name id e) (bulletBody.unasked []))
      (bullet mode.name id e) :=
    Fragment.onlyMarks_denote hvalue hfields Fragment.spaced_bulletBody.wellFormed
      fun name hname => absurd hname List.not_mem_nil
  have hunasked : ∀ name ∈ bulletBody.unasked [], name ∈ [Entry.titleName, Entry.authorName] ∨
      name ∈ ["globalkey".toList, "groupid".toList, Entry.keyName] := by
    decide +kernel
  refine hmarks.mono (List.map_subset _ fun name hname => ?_)
  obtain ⟨hname, hnone⟩ := List.mem_filter.1 hname
  rw [decide_eq_true_eq] at hnone
  rcases hunasked name hname with hfield | hreserved
  · exact List.mem_filter.2 ⟨hfield, decide_eq_true (hfields name hnone)⟩
  · -- The others have a value for every entry.
    have hkey : bulletValue mode.name id e Entry.keyName = some e.key := e.get?_key
    simp only [List.mem_cons, List.not_mem_nil, or_false] at hreserved
    rcases hreserved with rfl | rfl | rfl
    · cases hnone
    · cases hnone
    · rw [hkey] at hnone
      cases hnone

/-! ## The whole list -/

/-- Groups without `@` in a key are rendered one after the other, and a line break stands behind the
last one. -/
theorem render_builtin_of_groups (config : Config) (hconfig : config.useGroup = true)
    {groups : List Group} (hgroups : ∀ g ∈ groups, '@' ∉ g.key ∧ ∀ e ∈ g.entries, '@' ∉ e.key) :
    render config groups builtin = .ok ((groups.zipIdx.flatMap fun (g, id) =>
      bulletList config.groupBy.name id g) ++ "\n".toList) := by
  obtain ⟨hcheck, hexpand⟩ := checkBlocks_expandBlocks_builtin config.groupBy groups.length
    (renderGroups 0 groups)
  have hlists : renderGroups 0 groups (groupBlock (placeholder "groupkey".toList)
      (bulletBody.fill (globalValue config.groupBy groups.length)).text) =
        groups.zipIdx.flatMap fun (g, id) => bulletList config.groupBy.name id g := by
    rw [renderGroups_eq_flatMap]
    refine flatMap_congr fun ⟨g, id⟩ hmem => ?_
    obtain ⟨hkey, hentries⟩ := hgroups g (List.fst_mem_of_mem_zipIdx hmem)
    exact renderGroup_builtin _ _ hkey hentries id
  rw [render, if_pos hconfig, hcheck, hexpand, hlists]
  rfl

/-- **The built-in template.** With group blocks turned on, the built-in template is rendered for every
list of entries without `@` in a key or in a value: for each group, in the order in which the groups
are shown, a heading with its key, a bullet for each of its entries in their order, and a line break,
and one more line break in the end. In the headings there is no `@`, and in a bullet there is none
but in a placeholder for the title or the author of an entry that has none. -/
theorem render_builtin (config : Config) (hconfig : config.useGroup = true) (mode : GroupMode)
    (order : GroupOrder) (entries : List Entry) (hentries : ∀ e ∈ entries, e.Lacks '@') :
    render config (Group.ofEntries mode order entries) builtin =
        .ok (((Group.ofEntries mode order entries).zipIdx.flatMap fun (g, id) =>
          heading g.key ++ g.entries.flatMap (bullet config.groupBy.name id) ++ "\n".toList) ++
            "\n".toList) ∧
      ∀ g ∈ Group.ofEntries mode order entries, '@' ∉ heading g.key ∧
        ∀ e ∈ g.entries, ∀ id, OnlyMarks (missingMarks e) (bullet config.groupBy.name id e) := by
  have hpartition := Group.isPartition_ofEntries mode order entries
  have hkey (g : Group) (hg : g ∈ Group.ofEntries mode order entries) : '@' ∉ g.key := by
    obtain ⟨e, he, heq⟩ := hpartition.exists_key_eq hg
    rw [← heq]
    exact Group.not_mem_keyOf (hentries e he) (by decide) mode
  have hentry (g : Group) (hg : g ∈ Group.ofEntries mode order entries) (e : Entry)
      (he : e ∈ g.entries) : e.Lacks '@' := hentries e (hpartition.mem hg he).1
  refine ⟨render_builtin_of_groups config hconfig fun g hg => ⟨hkey g hg, fun e he => ?_⟩,
    fun g hg => ⟨at_not_mem_heading (hkey g hg), fun e he id => ?_⟩⟩
  · exact (hentry g hg e he).1
  · exact onlyMarks_bullet config.groupBy id (hentry g hg e he)

/-- An entry without a title, in the only group. -/
theorem render_builtin_untitled :
    render { groupBy := .none } (Group.ofEntries .none .ascending
        [⟨"lovelace43".toList, [("author".toList, "Ada Lovelace".toList),
          ("url".toList, "notes.pdf".toList)]⟩]) builtin =
      .ok ("\n=== all ===\n\n  *  **@title@** Ada Lovelace ().      ".toList ++
        "\x7b\x7bpublications:pdf:notes.pdf?linkonly\x7d\x7d   \n\n\n".toList) := by
  have hgroups (e : Entry) : Group.ofEntries .none .ascending [e] = [⟨Group.ungroupedKey, [e]⟩] := by
    simp [Group.ofEntries, Group.collect, Group.insert, Group.keyOf]
  have hrender := (render_builtin { groupBy := .none } rfl .none .ascending
    [⟨"lovelace43".toList, [("author".toList, "Ada Lovelace".toList),
      ("url".toList, "notes.pdf".toList)]⟩] (by decide)).1
  rw [hgroups] at hrender ⊢
  refine hrender.trans (congrArg Except.ok ?_)
  decide +kernel

/-- The line breaks of the template are not part of a heading or of a bullet: without entries there is
no group, but a line break. -/
theorem render_builtin_no_entries :
    ¬ ∃ (heading : Text → Text) (bullet : Text → Nat → Entry → Text), ∀ entries : List Entry,
      (∀ e ∈ entries, e.Lacks '@') →
        render {} (Group.ofEntries .year .descending entries) builtin =
          .ok ((Group.ofEntries .year .descending entries).zipIdx.flatMap fun (g, id) =>
            heading g.key ++ g.entries.flatMap (bullet GroupMode.year.name id)) := by
  rintro ⟨heading, bullet, h⟩
  -- Without entries, neither the headings nor the bullets have any part in the text.
  have hempty := h [] fun e he => absurd he List.not_mem_nil
  have hgroups : Group.ofEntries .year .descending [] = [] := by
    simp [Group.ofEntries, Group.collect]
  have hrender : render {} [] builtin = .ok "\n".toList :=
    render_builtin_of_groups {} rfl fun g hg => absurd hg List.not_mem_nil
  rw [hgroups, hrender] at hempty
  have hline : "\n".toList = [] := Except.ok.inj hempty
  exact absurd hline (by decide)

end PubList.Template
