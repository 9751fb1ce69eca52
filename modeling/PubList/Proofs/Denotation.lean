import PubList.Proofs.Layout
import PubList.Proofs.Values

/-!
# The meaning of a template

`Outline` is a template as its author has it in mind: a text around group blocks, in each of them a
text around entry blocks, in each of them a fragment. `Outline.denote` is what it means, in one
descent through the tree, with tables of what the placeholders mean that grow from level to level.
`render` never sees the tree: it makes four passes over a flat text, each over what the one before has
left.

`Outline.render_text` says that both give the same. Each pass is followed on the tree: the passes for
the list and for the group fill the tree (`fills_filled`), the blocks of the filled tree are
found (`expandBlocks_filled`), and `Fragment.renderEntry_fill` is the rest, for one entry.
-/

namespace PubList.Template

open Text (IsWord isWordChar NoHead)

/-! ## One entry -/

namespace Fragment

/-- A search for the marker of a block passes over a fragment. -/
theorem passes_marker {k : Char} (hk : k ∈ braces) {m : Text} (hm : '@' ∉ m)
    {f : Fragment} (hf : f.WellFormed ('@' ∉ ·)) (hbehind : f.BehindMarks Clean) :
    Passes (k :: m) f.text := by
  refine passes_text (not_word_of_mem_braces hk).1 hm hf
    (hbehind.mono fun g hg _ => apart_append ?_) (not_mem_marks_of_brace hk hf)
  exact hg.noHead k (mem_allHeads_of_mem_braces hk)

/-- **One entry.** Where the placeholders for the list and for the group are filled, rendering the
text of a fragment for an entry gives what the fragment means. -/
theorem renderEntry_fill {values : Text → List Text} {known : Text → Option Text} {e : Entry}
    (hknown : Sound values known) (hkey : Sound values (entryKeyValue e)) {f : Fragment}
    (hf : f.WellFormed IsLiteral) (hdepth : f.depth ≤ maxDepth) {after : Bool}
    (hanchored : f.Anchored values after) :
    renderEntry e (f.fill known).text =
      f.denote (firstOf (firstOf known (entryKeyValue e)) e.get?) e := by
  have hall : Sound values (firstOf known (entryKeyValue e)) := hknown.firstOf hkey
  have hkeyed : substitute (entryKeyValue e) (f.fill known).text =
      (f.fill (firstOf known (entryKeyValue e))).text := by
    rw [← fill_fill]
    have hwf := wellFormed_fill hknown hf hanchored
    exact (carries_text hwf (closed_behindMarks hwf
      ((anchored_fill hknown hf hanchored).mono fun _ h => h.guarded))).substitute_eq
  have hbehind := anchored_fill hall hf hanchored
  rw [renderEntry_eq_denote hkeyed (wellFormed_fill hall hf hanchored)
    (hbehind.mono fun _ h => apart_of_noHead (h.noHead.mono (by decide)))
    (hbehind.mono fun _ h => h.guarded) (by rwa [depth_fill]), denote_fill]

end Fragment

/-! ## Outlines -/

/-- The body of a group block: a text around entry blocks. -/
abbrev GroupBody := Layout Fragment

/-- A template as its author has it in mind: a text around group blocks. -/
abbrev Outline := Layout GroupBody

/-- A literal is one, a placeholder has one of the given names and no value of it has an `@`, and a
block is as `Body` says. -/
def Piece.WellFormed {α : Type} (names : List Text) (values : Text → List Text) (Body : α → Prop) :
    Piece α → Prop
  | .literal t => IsLiteral t
  | .mark name => name ∈ names ∧ ∀ v ∈ values name, '@' ∉ v
  | .block b => Body b

instance Piece.decidableWellFormed {α : Type} (names : List Text) (values : Text → List Text)
    (Body : α → Prop) [DecidablePred Body] :
    (p : Piece α) → Decidable (p.WellFormed names values Body)
  | .literal t => inferInstanceAs (Decidable (IsLiteral t))
  | .mark name => inferInstanceAs (Decidable (name ∈ names ∧ ∀ v ∈ values name, '@' ∉ v))
  | .block b => inferInstanceAs (Decidable (Body b))

namespace Fragment

/-- A fragment that can be the body of an entry block. -/
structure IsEntryBody (values : Text → List Text) (f : Fragment) : Prop where
  wellFormed : f.WellFormed IsLiteral
  depth_le : f.depth ≤ maxDepth
  anchored : f.Anchored values true

instance (values : Text → List Text) (f : Fragment) : Decidable (f.IsEntryBody values) :=
  decidable_of_iff (f.WellFormed IsLiteral ∧ f.depth ≤ maxDepth ∧ f.Anchored values true)
    ⟨fun h => ⟨h.1, h.2.1, h.2.2⟩, fun h => ⟨h.wellFormed, h.depth_le, h.anchored⟩⟩

end Fragment

namespace GroupBody

/-- The text of the body of a group block in a template. -/
def text (g : GroupBody) : Text := g.write placeholder fun f => marked .entry f.text

/-- The body of a group block with the placeholders that are known replaced by their values. -/
def filled (known : Text → Option Text) (g : GroupBody) : Text :=
  g.write (shown known) fun f => marked .entry (f.fill known).text

/-- What the body of a group block means for the entries of a group, where the meanings of the
placeholders for the list and for the group are given. -/
def denote (meanings : List (Text × Text)) (entries : List Entry) (g : GroupBody) : Text :=
  g.write (shown (meanings.lookup ·)) fun f => entries.flatMap fun e =>
    f.denote ((meanings ++ entryMeanings e).lookup ·) e

/-- The placeholders of a group block are those for the list and for the group. -/
def WellFormed (groups : List Group) (g : GroupBody) : Prop :=
  ∀ p ∈ g, p.WellFormed (globalNames ++ groupNames) (dataValues groups)
    (Fragment.IsEntryBody (dataValues groups))

instance (groups : List Group) (g : GroupBody) : Decidable (g.WellFormed groups) :=
  inferInstanceAs (Decidable (∀ p ∈ g, p.WellFormed (globalNames ++ groupNames) (dataValues groups)
    (Fragment.IsEntryBody (dataValues groups))))

end GroupBody

namespace Outline

/-- The text of a template. -/
def text (T : Outline) : Text := T.write placeholder fun g => marked .group g.text

/-- What a template means for a list of groups. -/
def denote (config : Config) (groups : List Group) (T : Outline) : Text :=
  T.write (shown ((listMeanings config groups).lookup ·)) fun g =>
    groups.zipIdx.flatMap fun (group, id) =>
      g.denote (listMeanings config groups ++ groupMeanings id group) group.entries

/-- The placeholders around the group blocks are those for the list. -/
def WellFormed (groups : List Group) (T : Outline) : Prop :=
  ∀ p ∈ T, p.WellFormed globalNames (dataValues groups) (GroupBody.WellFormed groups)

instance (groups : List Group) (T : Outline) : Decidable (T.WellFormed groups) :=
  inferInstanceAs (Decidable (∀ p ∈ T,
    p.WellFormed globalNames (dataValues groups) (GroupBody.WellFormed groups)))

end Outline

/-! ## One group -/

section Parts

variable {lookup : Text → Option Text}

theorem IsLiteral.fills {t : Text} (ht : IsLiteral t) : Fills lookup t t :=
  Fills.of_break ht.1 ht.2.1

theorem IsLiteral.skips {t : Text} (ht : IsLiteral t) {k : Char} (hk : k ∈ allHeads) (m : Text) :
    Skips (k :: m) t :=
  Skips.of_not_mem ht.1 (ht.2.2 k hk)

/-- A search for the marker of a group passes over an entry block. -/
theorem skips_marked_entry {k : Char} (hk : k ∈ braces) {s : Text}
    (hs : Skips (k :: BlockKind.group.name) s) :
    Skips (k :: BlockKind.group.name) (marked .entry s) := by
  have hmark {k' : Char} (hk' : k' ≠ '@') :
      Skips (k :: BlockKind.group.name) (placeholder (k' :: BlockKind.entry.name)) := by
    refine Skips.mark (not_word_of_mem_braces hk).1 (by decide) ?_ fun h => ?_
    · rw [List.mem_cons, not_or]
      exact ⟨Ne.symm hk', by decide⟩
    · exact absurd (List.cons.inj h).2 (by decide)
  rw [marked, BlockKind.opener_eq, BlockKind.closer_eq]
  exact ((hmark (by decide)).append hs).append (hmark (by decide))

end Parts

namespace GroupBody

section Filled

variable {groups : List Group} {known lookup : Text → Option Text} {g : GroupBody}

/-- A pass over the body of a group block fills it. The values that are there already must complete
no placeholder of the pass. -/
theorem fills_filled (hknown : Fragment.Sound (dataValues groups) known) (hg : g.WellFormed groups)
    (hshown : ∀ name, IsWord name →
      Fills lookup (shown known name) (shown (firstOf known lookup) name)) :
    Fills lookup (g.filled known) (g.filled (firstOf known lookup)) := by
  refine Layout.fills_write (fun t ht => (hg _ ht).fills) (fun name hname => ?_) fun f hf => ?_
  · exact hshown name (isWord_of_mem_names (hg _ hname).1)
  · obtain ⟨hwf, -, hanchored⟩ := hg _ hf
    exact fills_marked (Fragment.fills_fill hknown hshown hwf hanchored)

/-- The entry blocks of a body that is filled are found. -/
theorem expandBlocks_filled (expand : Text → Text)
    (hknown : Fragment.Sound (dataValues groups) known) (hg : g.WellFormed groups)
    (hshown : ∀ name ∈ globalNames ++ groupNames, ∃ v, known name = some v) :
    expandBlocks .entry expand (g.filled known) =
      g.write (shown known) fun f => expand (f.fill known).text := by
  refine Layout.write_induction (fun f : Fragment => expand (f.fill known).text)
    (expandBlocks .entry expand · = ·) ('@' ∉ ·) (by simp) ?_ ?_ ?_ ?_ ?_
  · intro s s' hs hs'
    rw [List.mem_append, not_or]
    exact ⟨hs, hs'⟩
  · intro t ht
    exact (hg _ ht).1
  · intro name hname
    obtain ⟨hmem, hdata⟩ := hg _ hname
    obtain ⟨v, hv⟩ := hshown name hmem
    rw [shown, hv, Option.getD_some]
    exact (hknown name v hv).2.elim (hdata v) (·.1)
  · intro s hs
    exact expandBlocks_of_none expand (findBlock?_eq_none (passesOpener_of_not_mem hs))
  · intro s f t t' hs hf ht
    obtain ⟨hwf, -, hanchored⟩ := hg _ hf
    have hbody : PassesCloser .entry (f.fill known).text :=
      Fragment.passes_marker (by decide) (by decide) (Fragment.wellFormed_fill hknown hwf hanchored)
        (Fragment.anchored_fill hknown hwf hanchored)
    rw [expandBlocks_marked expand (passesOpener_of_not_mem hs) hbody, ht]

/-- A search for a marker passes over a placeholder for which the values for the list are put in. -/
theorem skips_shown_global (mode : GroupMode) (n : Nat) {k : Char} (hk : k ∈ braces)
    {m : Text} (hm : '@' ∉ m) {name : Text} (hname : name ∈ globalNames ++ groupNames) :
    Skips (k :: m) (shown (globalValue mode n) name) := by
  have hbrace {v : Text} (hv : IsWord v) : v.head? ≠ some k :=
    noHead_of_isWord hv k (mem_allHeads_of_mem_braces hk)
  rw [shown]
  cases hvalue : globalValue mode n name with
  | some v =>
    obtain ⟨-, hword, -⟩ := globalValue_eq_some hvalue
    exact Skips.of_not_mem (not_at_mem_of_isWord hword) (hbrace hword)
  | none =>
    have hword := isWord_of_mem_names hname
    refine Skips.mark (not_word_of_mem_braces hk).1 hm (not_at_mem_of_isWord hword) fun h => ?_
    refine hbrace hword ?_
    rw [h, List.head?_cons]

/-- A search for the marker of a group passes over the body of a group block. -/
theorem skips_filled (mode : GroupMode) (n : Nat) (hg : g.WellFormed groups) {k : Char}
    (hk : k ∈ braces) :
    Skips (k :: BlockKind.group.name) (g.filled (globalValue mode n)) := by
  have hall := mem_allHeads_of_mem_braces hk
  refine Layout.skips_write (fun t ht => (hg _ ht).skips hall _) (fun name hname => ?_)
    fun f hf => skips_marked_entry hk ?_
  · exact skips_shown_global mode n hk (by decide) (hg _ hname).1
  · obtain ⟨hwf, -, hanchored⟩ := hg _ hf
    have hknown := Fragment.sound_global groups mode n
    refine ⟨Fragment.passes_marker hk (by decide) (Fragment.wellFormed_fill hknown hwf hanchored)
      (Fragment.anchored_fill hknown hwf hanchored), fun _ => apart_append ?_⟩
    refine Fragment.noHead_fill hknown (fun name v hv => ?_) hwf hanchored k hall
    exact noHead_of_isWord (globalValue_eq_some hv).2.1

/-- Every entry block in the body of a group block is closed. -/
theorem hasUnclosedEntry_filled (mode : GroupMode) (n : Nat) (hg : g.WellFormed groups) :
    hasUnclosedEntry (g.filled (globalValue mode n)) = false := by
  refine Layout.write_induction Fragment.text (fun s _ => hasUnclosedEntry s = false)
    (Skips ('\x7b' :: BlockKind.entry.name)) (Skips.nil _) (fun _ _ => Skips.append) ?_ ?_ ?_ ?_
  · intro t ht
    exact (hg _ ht).skips (by decide) _
  · intro name hname
    exact skips_shown_global mode n (by decide) (by decide) (hg _ hname).1
  · intro s hs
    exact hasUnclosedEntry_of_passes hs.passes
  · intro s f t t' hs hf ht
    obtain ⟨hwf, -, hanchored⟩ := hg _ hf
    have hknown := Fragment.sound_global groups mode n
    have hbody : PassesCloser .entry (f.fill (globalValue mode n)).text :=
      Fragment.passes_marker (by decide) (by decide) (Fragment.wellFormed_fill hknown hwf hanchored)
        (Fragment.anchored_fill hknown hwf hanchored)
    rw [hasUnclosedEntry_marked hs.passes hbody, ht]

/-- The pass for a group leaves the values for the list alone. -/
theorem fills_shown_group (mode : GroupMode) (n : Nat) (key : Text) (id count : Nat) {name : Text}
    (hname : IsWord name) :
    Fills (groupValue key id count) (shown (globalValue mode n) name)
      (shown (firstOf (globalValue mode n) (groupValue key id count)) name) := by
  rw [shown, shown, firstOf]
  cases hvalue : globalValue mode n name with
  | none => exact Fragment.fills_placeholder hname
  | some v =>
    obtain ⟨-, hword, hhead⟩ := globalValue_eq_some hvalue
    cases v with
    | nil => exact absurd rfl hword.1
    | cons c v =>
      refine Fills.of_head (not_at_mem_of_isWord hword) (groupValue_of_head ?_ key id count)
      rintro rfl
      exact hhead rfl

/-- **One group.** Where the placeholders for the list are filled, rendering the body of a group
block for a group gives what the body means. -/
theorem renderGroup_filled (config : Config) (hg : g.WellFormed groups) {group : Group}
    (hgroup : group ∈ groups) (id : Nat) :
    renderGroup group.key id group.entries
        (g.filled (globalValue config.groupBy groups.length)) =
      g.denote (listMeanings config groups ++ groupMeanings id group) group.entries := by
  have hglobal := Fragment.sound_global groups config.groupBy groups.length
  have hknown := hglobal.firstOf (Fragment.sound_group hgroup id group.entries.length)
  have hfills := fills_filled hglobal hg fun name hname =>
    fills_shown_group config.groupBy groups.length group.key id group.entries.length hname
  have hmeanings := lookup_append_groupMeanings config groups id group
  rw [renderGroup, hfills.carries.substitute_eq, expandBlocks_filled _ hknown hg ?_, denote,
    hmeanings]
  · -- The entries of the group give the text of each entry block.
    refine Layout.write_congr fun f hf => ?_
    obtain ⟨hwf, hdepth, hanchored⟩ := hg _ hf
    refine flatMap_congr fun e he => ?_
    rw [lookup_append_entryMeanings, hmeanings]
    exact Fragment.renderEntry_fill hknown (Fragment.sound_entryKey hgroup he) hwf hdepth hanchored
  · exact fun name hname =>
      firstOf_isSome config.groupBy groups.length group.key id group.entries.length hname

end Filled

end GroupBody

/-! ## The whole template -/

theorem renderGroups_eq_flatMap (id : Nat) (groups : List Group) (body : Text) :
    renderGroups id groups body =
      (groups.zipIdx id).flatMap fun (g, i) => renderGroup g.key i g.entries body := by
  induction groups generalizing id with
  | nil => rfl
  | cons g groups ih => rw [renderGroups, ih, List.zipIdx_cons, List.flatMap_cons]

theorem GroupBody.text_eq_filled (g : GroupBody) : g.text = g.filled fun _ => none := by
  refine Layout.write_congr fun f _ => ?_
  rw [Fragment.fill_none]

namespace Outline

section Render

variable {groups : List Group} {T : Outline}

/-- A template with the values for the list put in. -/
def filled (config : Config) (groups : List Group) (T : Outline) : Text :=
  T.write (shown (globalValue config.groupBy groups.length)) fun g =>
    marked .group (g.filled (globalValue config.groupBy groups.length))

/-- The first pass puts in the values for the list. -/
theorem substitute_text (config : Config) (hT : T.WellFormed groups) :
    substitute (globalValue config.groupBy groups.length) T.text = T.filled config groups := by
  have hnone : Fragment.Sound (dataValues groups) fun _ => none := fun name v hv => by cases hv
  have hfills : Fills (globalValue config.groupBy groups.length) T.text (T.filled config groups) := by
    refine Layout.fills_write (fun t ht => (hT _ ht).fills) (fun name hname => ?_) fun g hg => ?_
    · exact Fragment.fills_placeholder
        (isWord_of_mem_names (List.mem_append_left _ (hT _ hname).1))
    · rw [g.text_eq_filled]
      exact fills_marked <| GroupBody.fills_filled hnone (hT _ hg) fun name hname =>
        Fragment.fills_placeholder hname
  exact hfills.carries.substitute_eq

/-- Between the group blocks, only literals and values for the list are left. -/
theorem at_not_mem_plain (config : Config) (hT : T.WellFormed groups) :
    (∀ t, .literal t ∈ T → '@' ∉ t) ∧
      ∀ name, .mark name ∈ T → '@' ∉ shown (globalValue config.groupBy groups.length) name := by
  refine ⟨fun t ht => (hT _ ht).1, fun name hname => ?_⟩
  obtain ⟨v, hv⟩ := globalValue_isSome config.groupBy groups.length (hT _ hname).1
  rw [shown, hv, Option.getD_some]
  exact not_at_mem_of_isWord (globalValue_eq_some hv).2.1

/-- The blocks of a well-formed template are accepted. -/
theorem checkBlocks_filled (config : Config) (hT : T.WellFormed groups) (offset : Nat) :
    checkBlocks offset (T.filled config groups) = .ok () := by
  obtain ⟨hliteral, hmark⟩ := at_not_mem_plain config hT
  refine Layout.write_induction GroupBody.text (fun s _ => ∀ offset, checkBlocks offset s = .ok ())
    ('@' ∉ ·) (by simp) ?_ hliteral hmark ?_ ?_ offset
  · intro s s' hs hs'
    rw [List.mem_append, not_or]
    exact ⟨hs, hs'⟩
  · intro s hs offset
    exact checkBlocks_of_passes (passesOpener_of_not_mem hs) offset
  · intro s g t t' hs hg ht offset
    have hbody := GroupBody.skips_filled config.groupBy groups.length (hT _ hg) (k := '\x7d')
      (by decide)
    have hinner := GroupBody.skips_filled config.groupBy groups.length (hT _ hg) (k := '\x7b')
      (by decide)
    have hentries := GroupBody.hasUnclosedEntry_filled config.groupBy groups.length (hT _ hg)
    obtain ⟨offset', hcheck⟩ := checkBlocks_marked (passesOpener_of_not_mem hs) hbody.passes
      hinner.passes hentries offset t
    rw [hcheck, ht]

/-- The group blocks of a well-formed template are found. -/
theorem expandBlocks_filled (config : Config) (hT : T.WellFormed groups) (expand : Text → Text) :
    expandBlocks .group expand (T.filled config groups) =
      T.write (shown (globalValue config.groupBy groups.length)) fun g =>
        expand (g.filled (globalValue config.groupBy groups.length)) := by
  obtain ⟨hliteral, hmark⟩ := at_not_mem_plain config hT
  refine Layout.write_induction
    (fun g : GroupBody => expand (g.filled (globalValue config.groupBy groups.length)))
    (expandBlocks .group expand · = ·) ('@' ∉ ·) (by simp) ?_ hliteral hmark ?_ ?_
  · intro s s' hs hs'
    rw [List.mem_append, not_or]
    exact ⟨hs, hs'⟩
  · intro s hs
    exact expandBlocks_of_none expand (findBlock?_eq_none (passesOpener_of_not_mem hs))
  · intro s g t t' hs hg ht
    have hbody := GroupBody.skips_filled config.groupBy groups.length (hT _ hg) (k := '\x7d')
      (by decide)
    rw [expandBlocks_marked expand (passesOpener_of_not_mem hs) hbody.passes, ht]

/-- **The meaning of a template.** With group blocks turned on, rendering the text of a well-formed
template succeeds for every list of groups, and gives what the template means. -/
theorem render_text (config : Config) (hconfig : config.useGroup = true) (groups : List Group)
    (T : Outline) (hT : T.WellFormed groups) :
    render config groups T.text = .ok (T.denote config groups) := by
  have hcheck := checkBlocks_filled config hT 0
  have hgroups : T.write (shown (globalValue config.groupBy groups.length))
      (fun g => renderGroups 0 groups (g.filled (globalValue config.groupBy groups.length))) =
        T.denote config groups := by
    rw [denote, lookup_listMeanings]
    refine Layout.write_congr fun g hg => ?_
    rw [renderGroups_eq_flatMap]
    refine flatMap_congr fun ⟨group, id⟩ hgroup => ?_
    have hmem : group ∈ groups := List.fst_mem_of_mem_zipIdx hgroup
    exact GroupBody.renderGroup_filled config (hT _ hg) hmem id
  rw [render, substitute_text config hT, if_pos hconfig, hcheck, expandBlocks_filled config hT,
    hgroups]
  rfl

/-- All seven reserved placeholders. The first group has two entries: the value of one of them looks like
a placeholder, and the other one does not have the field that the template asks for. -/
theorem render_text_two_groups :
    render {} [⟨"2021".toList, [⟨"a".toList, [("doi".toList, "@entrykey@".toList)]⟩,
          ⟨"b".toList, []⟩]⟩,
        ⟨"2020".toList, [⟨"c".toList, []⟩]⟩]
        ("@globalkey@, @globalcount@ in @globalgroupcount@@\x7bgroup@ / @groupkey@ (@groupcount@)".toList ++
          "@\x7bentry@ @entrykey@=@key@ @?doi@@doi@@:doi@-@;doi@ @groupid@ @\x7dentry@@\x7dgroup@".toList) =
      .ok "year, 0 in 2 / 2021 (2) a=a @entrykey@ 0  b=b - 0  / 2020 (1) c=c - 1 ".toList := by
  let T : Outline :=
    [.mark "globalkey".toList, .literal ", ".toList, .mark "globalcount".toList,
      .literal " in ".toList, .mark "globalgroupcount".toList,
      .block [.literal " / ".toList, .mark "groupkey".toList, .literal " (".toList,
        .mark "groupcount".toList, .literal ")".toList,
        .block (.literal " ".toList <| .mark "entrykey".toList <| .literal "=".toList <|
          .mark "key".toList <| .literal " ".toList <|
          .ifElse ⟨"doi".toList, none⟩ (.mark "doi".toList .nil) (.literal "-".toList .nil) <|
          .literal " ".toList <| .mark "groupid".toList <| .literal " ".toList .nil)]]
  have htext : T.text =
      "@globalkey@, @globalcount@ in @globalgroupcount@@\x7bgroup@ / @groupkey@ (@groupcount@)".toList ++
        "@\x7bentry@ @entrykey@=@key@ @?doi@@doi@@:doi@-@;doi@ @groupid@ @\x7dentry@@\x7dgroup@".toList := by
    decide +kernel
  rw [← htext, render_text {} rfl _ T (by decide)]
  exact congrArg Except.ok (by decide +kernel)

end Render

end Outline

end PubList.Template
