import PubList.Proofs.BlockCheck
import PubList.Proofs.Seams

/-!
# Texts that rendering leaves alone

At each level a text is left alone, character by character, if it has nothing for the level: no
placeholder with a name that stands for a value (`Unmarked`), and no complete block (`HasBlock`) or no
conditional (`BlockFree`). It may have as many `@`, unknown placeholders and markers without a partner as
it likes.

Nothing less will do. Values and blocks that are shorter than what they stand for only take text away, so
a text that stays with such data has nothing for the level (`unchanged_iff`).
-/

namespace PubList

/-- The names that stand for a value in a template for the entry. -/
def Entry.knownNames (e : Entry) : List Text :=
  "entrykey".toList :: keyName :: e.fields.map Prod.fst

theorem Entry.mem_knownNames_of_get? {e : Entry} {name v : Text} (h : e.get? name = some v) :
    name ∈ e.knownNames := by
  rw [get?] at h
  split at h
  · next hname => simp [knownNames, hname]
  · obtain ⟨before, after, hfields, -⟩ := List.lookup_eq_some_iff.1 h
    simp [knownNames, hfields]

/-- The entry with nothing in it. -/
def Entry.hollowed (e : Entry) : Entry := ⟨[], e.fields.map fun field => (field.1, [])⟩

theorem Entry.knownNames_hollowed (e : Entry) : e.hollowed.knownNames = e.knownNames := by
  simp [knownNames, hollowed, Function.comp_def]

theorem Entry.eq_nil_of_get?_hollowed {e : Entry} {name v : Text} (h : e.hollowed.get? name = some v) :
    v = [] := by
  rw [get?] at h
  split at h
  · exact (Option.some.inj h).symm
  · obtain ⟨before, after, hfields, -⟩ := List.lookup_eq_some_iff.1 h
    have hmem : (name, v) ∈ e.hollowed.fields := by simp [hfields]
    obtain ⟨field, -, hfield⟩ := List.mem_map.1 hmem
    exact (congrArg Prod.snd hfield).symm

theorem Entry.exists_get?_of_mem {e : Entry} {name : Text} (h : name ∈ keyName :: e.fields.map Prod.fst) :
    ∃ v, e.get? name = some v := by
  rw [get?]
  split
  · exact ⟨_, rfl⟩
  · next hname =>
    have hmem := (List.mem_cons.1 h).resolve_left hname
    refine Option.ne_none_iff_exists'.1 fun hnone => ?_
    obtain ⟨field, hfield, rfl⟩ := List.mem_map.1 hmem
    exact absurd (List.lookup_eq_none_iff.1 hnone field hfield) (by simp)

namespace Template

open Text (IsWord)

/-! ## Placeholders -/

/-- There is no placeholder with one of the names. A name that is no word makes no placeholder. -/
def Unmarked (names : List Text) (t : Text) : Prop :=
  ∀ name ∈ names, IsWord name → ¬ placeholder name <:+: t

instance (names : List Text) (t : Text) : Decidable (Unmarked names t) :=
  decidable_of_iff (∀ name ∈ names, IsWord name → Text.contains t (placeholder name) = false)
    (by simp only [Unmarked, Text.contains_eq_false_iff])

section Unmarked

variable {names : List Text} {lookup : Text → Option Text} {t : Text}

theorem substitute_eq_self_of_unmarked (hnames : ∀ name v, lookup name = some v → name ∈ names)
    (ht : Unmarked names t) : substitute lookup t = t := by
  refine substitute_eq_self fun u s hs name hname => ?_
  obtain ⟨hword, rest, rfl⟩ := wordBeforeAt?_eq_some hname
  rw [Option.eq_none_iff_forall_ne_some]
  intro v hv
  exact ht name (hnames name v hv) hword ⟨u, rest, by rw [hs, List.append_assoc, placeholder_append]⟩

theorem short_of_forall_mem (hnames : ∀ name v, lookup name = some v → name ∈ names)
    (h : ∀ name ∈ names, ((lookup name).getD []).length < (placeholder name).length) : Short lookup := by
  intro name v hv
  simpa [hv] using h name (hnames name v hv)

theorem unmarked_of_substitute_eq_self (hshort : Short lookup)
    (hnames : ∀ name ∈ names, ∃ v, lookup name = some v) (h : substitute lookup t = t) :
    Unmarked names t := by
  rintro name hmem hword ⟨u, rest, hu⟩
  rw [List.append_assoc, placeholder_append] at hu
  have hnone := eq_none_of_substitute_eq_self hshort h hu.symm (wordBeforeAt?_append hword)
  obtain ⟨v, hv⟩ := hnames name hmem
  rw [hv] at hnone
  cases hnone

end Unmarked

/-! ## Blocks -/

/-- There is a block: an opening marker, and a closing one behind it. -/
def HasBlock (kind : BlockKind) (t : Text) : Prop :=
  ∃ x y z, t = x ++ (kind.opener ++ (y ++ (kind.closer ++ z)))

theorem findBlock?_eq_none_iff {kind : BlockKind} {t : Text} :
    findBlock? kind t = none ↔ ¬ HasBlock kind t := by
  constructor
  · rintro hnone ⟨x, y, z, ht⟩
    exact not_closer_infix_of_findBlock?_eq_none hnone ht ⟨y, z, by rw [List.append_assoc]⟩
  · intro h
    rw [Option.eq_none_iff_forall_ne_some]
    exact fun b hsome => h ⟨b.before, b.body, b.after, eq_append_of_findBlock? hsome⟩

instance (kind : BlockKind) (t : Text) : Decidable (HasBlock kind t) :=
  decidable_of_iff (findBlock? kind t ≠ none) (by rw [ne_eq, findBlock?_eq_none_iff, Classical.not_not])

/-- The check refuses no text without group blocks. -/
theorem checkBlocks_of_none {t : Text} (h : findBlock? .group t = none) (offset : Nat) :
    checkBlocks offset t = .ok () := by
  rw [checkBlocks]
  split
  · rfl
  · next hsome => simp [h] at hsome

/-! ## The three levels -/

section Levels

variable {t : Text}

theorem renderEntry_eq_self {e : Entry} (hfree : BlockFree t) (ht : Unmarked e.knownNames t) :
    renderEntry e t = t := by
  have hkey : substitute (entryKeyValue e) t = t := by
    refine substitute_eq_self_of_unmarked (fun name v hv => ?_) ht
    rw [entryKeyValue, Option.ite_none_right_eq_some] at hv
    simp [Entry.knownNames, hv.1]
  have hfields : substitute e.get? t = t :=
    substitute_eq_self_of_unmarked (fun _ _ => Entry.mem_knownNames_of_get?) ht
  rw [renderEntry, hkey, resolve_eq_self_of_no_block e hfree, hfields]

/-- A text that stays for an entry with nothing in it has nothing for an entry with these fields. -/
theorem of_renderEntry_hollowed {e : Entry} (h : renderEntry e.hollowed t = t) :
    BlockFree t ∧ Unmarked e.knownNames t := by
  have hshort : Short e.hollowed.get? := short_of_eq_nil fun _ _ => Entry.eq_nil_of_get?_hollowed
  obtain ⟨hkey, hunread, hfields⟩ := passes_of_renderEntry_eq_self hshort h
  refine ⟨blockFree_iff_unread.2 hunread, fun name hname => ?_⟩
  rw [← Entry.knownNames_hollowed] at hname
  rcases List.mem_cons.1 hname with rfl | hname
  · have hkeyed : Unmarked ["entrykey".toList] t :=
      unmarked_of_substitute_eq_self (short_of_eq_nil fun name v hv => ?_) ?_ hkey
    · exact hkeyed _ List.mem_cons_self
    · exact (Option.some.inj (Option.ite_none_right_eq_some.1 hv).2).symm
    · exact fun name hmem => ⟨[], if_pos (List.mem_singleton.1 hmem)⟩
  · exact unmarked_of_substitute_eq_self hshort (fun _ => Entry.exists_get?_of_mem) hfields name hname

theorem renderGroup_eq_self (key : Text) (id : Nat) (entries : List Entry)
    (ht : Unmarked groupNames t) (hblock : ¬ HasBlock .entry t) :
    renderGroup key id entries t = t := by
  have hfilled : substitute (groupValue key id entries.length) t = t :=
    substitute_eq_self_of_unmarked (fun _ _ hv => (groupValue_eq_some hv).1) ht
  rw [renderGroup, hfilled, expandBlocks_of_none _ (findBlock?_eq_none_iff.2 hblock)]

/-- A text that stays for a group without a key and without entries has nothing for a group. -/
theorem of_renderGroup_nil (h : renderGroup [] 0 [] t = t) :
    Unmarked groupNames t ∧ ¬ HasBlock .entry t := by
  have hshort : Short (groupValue [] 0 0) :=
    short_of_forall_mem (fun _ _ hv => (groupValue_eq_some hv).1) (by decide)
  obtain ⟨hfilled, hfind⟩ := of_expandBlocks_substitute_eq_self hshort h
  exact ⟨unmarked_of_substitute_eq_self hshort (fun _ => groupValue_isSome [] 0 0) hfilled,
    findBlock?_eq_none_iff.1 hfind⟩

theorem render_eq_ok_self (config : Config) (groups : List Group) (ht : Unmarked globalNames t)
    (hblock : ¬ HasBlock .group t) : render config groups t = .ok t := by
  have hfilled : substitute (globalValue config.groupBy groups.length) t = t :=
    substitute_eq_self_of_unmarked (fun _ _ hv => (globalValue_eq_some hv).1) ht
  have hfind := findBlock?_eq_none_iff.2 hblock
  simp only [render, hfilled, checkBlocks_of_none hfind, expandBlocks_of_none _ hfind]
  split <;> rfl

/-- A text that stays where there are no groups has nothing for a list. -/
theorem of_render_nil (h : render { } [] t = .ok t) :
    Unmarked globalNames t ∧ ¬ HasBlock .group t := by
  have hshort : Short (globalValue .year 0) :=
    short_of_forall_mem (fun _ _ hv => (globalValue_eq_some hv).1) (by decide)
  have hexpand : expandBlocks .group (fun _ => []) (substitute (globalValue .year 0) t) = t := by
    have hnil : renderGroups 0 [] = fun _ => [] := rfl
    rw [render, hnil] at h
    cases hcheck : checkBlocks 0 (substitute (globalValue .year 0) t) with
    | error err => simp [hcheck] at h
    | ok => simpa [hcheck] using h
  obtain ⟨hfilled, hfind⟩ := of_expandBlocks_substitute_eq_self hshort hexpand
  exact ⟨unmarked_of_substitute_eq_self hshort (fun _ => globalValue_isSome .year 0) hfilled,
    findBlock?_eq_none_iff.1 hfind⟩

/-- **What is left alone.** In the template for an entry, a text without conditionals and without
placeholders for the key or a field stays as it is; in the template for a group, one without placeholders
for the group and without entry blocks; in the template for a list, one without placeholders for the list
and without group blocks. Every text that stays whatever the data are is such a text. -/
theorem unchanged_iff (t : Text) :
    (∀ e : Entry, BlockFree t ∧ Unmarked e.knownNames t ↔
        ∀ e' : Entry, e'.knownNames = e.knownNames → renderEntry e' t = t) ∧
      (Unmarked groupNames t ∧ ¬ HasBlock .entry t ↔
        ∀ key id entries, renderGroup key id entries t = t) ∧
      (Unmarked globalNames t ∧ ¬ HasBlock .group t ↔
        ∀ config groups, render config groups t = .ok t) := by
  refine ⟨fun e => ⟨?_, fun h => ?_⟩, ⟨?_, fun h => ?_⟩, ⟨?_, fun h => ?_⟩⟩
  · rintro ⟨hfree, ht⟩ e' hnames
    exact renderEntry_eq_self hfree (hnames ▸ ht)
  · exact of_renderEntry_hollowed (h e.hollowed e.knownNames_hollowed)
  · exact fun ⟨ht, hblock⟩ key id entries => renderGroup_eq_self key id entries ht hblock
  · exact of_renderGroup_nil (h [] 0 [])
  · exact fun ⟨ht, hblock⟩ config groups => render_eq_ok_self config groups ht hblock
  · exact of_render_nil (h { } [])

end Levels

/-- Markers without a partner, a conditional with an operator that is not known, and placeholders that are
not closed or not known. -/
theorem unchanged_iff_unpaired :
    let e : Entry := ⟨"k".toList, [("title".toList, "T".toList), ("year".toList, "2021".toList)]⟩
    let t : Text := "@@ @\x7dentry@ @?year<2000@new@;year@ @unknown@title @\x7bentry@ @?url@ @\x7dgroup@@\x7bgroup@".toList
    (BlockFree t ∧ Unmarked e.knownNames t ∧ renderEntry e t = t) ∧
      (Unmarked groupNames t ∧ ¬ HasBlock .entry t ∧ renderGroup "2021".toList 0 [e] t = t) ∧
      (Unmarked globalNames t ∧ ¬ HasBlock .group t ∧ render { } [⟨"2021".toList, [e]⟩] t = .ok t) := by
  intro e t
  obtain ⟨hfree, hentry, hgroup, hentryBlock, hlist, hgroupBlock⟩ :
      BlockFree t ∧ Unmarked e.knownNames t ∧ Unmarked groupNames t ∧ ¬ HasBlock .entry t ∧
        Unmarked globalNames t ∧ ¬ HasBlock .group t := by decide +kernel
  obtain ⟨hrenderEntry, hrenderGroup, hrender⟩ := unchanged_iff t
  exact ⟨⟨hfree, hentry, (hrenderEntry e).1 ⟨hfree, hentry⟩ e rfl⟩,
    ⟨hgroup, hentryBlock, hrenderGroup.1 ⟨hgroup, hentryBlock⟩ _ _ _⟩,
    ⟨hlist, hgroupBlock, hrender.1 ⟨hlist, hgroupBlock⟩ _ _⟩⟩

end Template

end PubList
