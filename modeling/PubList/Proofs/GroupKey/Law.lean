import PubList.Proofs.Inert
import PubList.Proofs.Layout
import PubList.Proofs.Values
import PubList.Proofs.GroupKey.Origin

/-!
# Group keys as data

A group key is put into the body of a group block before its entry blocks are looked for, and before
the text of an entry block is read for placeholders and conditionals. `KeyIsData` says that all of
these scanners pass the key through: rendering with the key is rendering with a fresh character in
its place, and putting the key in afterwards.

For inert keys it holds (`keyIsData_of_inert`): each of the scanners passes them through.
-/

namespace PubList.Template

open Text (IsWord isWordChar)

/-- A character that can stand for a group key: no word has it and no mark begins with it behind its
`@`, and it occurs neither in the template nor in the entries. -/
structure FreshKey (c : Char) (entries : List Entry) (t : Text) : Prop where
  not_word : isWordChar c = false
  not_mark : c ∉ ['?', '\x7b', '\x7d']
  not_mem : c ∉ t
  not_mem_entries : ∀ e ∈ entries, c ∉ e.key ∧ ∀ field ∈ e.fields, c ∉ field.1 ∧ c ∉ field.2

/-- No key of an entry brings the opening mark of a conditional into a template without one. -/
def QuietKeys (entries : List Entry) : Prop :=
  ∀ e ∈ entries, e.key.head? ≠ some '?' ∧ Text.contains e.key Conditional.opener = false

/-- In every template without conditionals, the text that is put in for the group key is never read
as markup. -/
def KeyIsData (k : Text) : Prop :=
  ∀ (c : Char) (id : Nat) (entries : List Entry) (t : Text), FreshKey c entries t →
    QuietKeys entries → Text.contains t Conditional.opener = false →
    renderGroup k id entries t = (renderGroup [c] id entries t).flatMap (replace c k)

/-! ## Inert keys are data -/

theorem calm_of_not_mem {c : Char} {t : Text} (hc : c ∉ t)
    (ht : Text.contains t Conditional.opener = false) : Calm c t := by
  rintro a (rfl | rfl) hocc
  · exact Text.contains_eq_false_iff.1 ht hocc
  · exact hc (hocc.subset List.mem_cons_self)

/-- Without an `@` there is nothing to render. -/
theorem renderGroup_of_not_mem {t : Text} (h : '@' ∉ t) (key : Text) (id : Nat)
    (entries : List Entry) : renderGroup key id entries t = t := by
  have hsubstitute : substitute (groupValue key id entries.length) t = t := by
    simpa using substitute_append_of_not_mem h []
  rw [renderGroup, hsubstitute]
  exact expandBlocks_of_none _ (findBlock?_eq_none (passesOpener_of_not_mem h))

section Inert

variable {c : Char} {k : Text}

theorem not_mem_get? {e : Entry} (he : c ∉ e.key ∧ ∀ field ∈ e.fields, c ∉ field.1 ∧ c ∉ field.2)
    {name v : Text} (h : e.get? name = some v) : c ∉ v := by
  have hlacks : e.Lacks c := ⟨he.1, fun field hfield => (he.2 field hfield).2⟩
  exact hlacks.not_mem_of_get? h

/-- In a calm text, an entry is rendered with an inert key as with the character in its place. -/
theorem renderEntry_flatMap (hk : Inert k) (hat : c ≠ '@') (hc : isWordChar c = false) {e : Entry}
    (he : c ∉ e.key ∧ ∀ field ∈ e.fields, c ∉ field.1 ∧ c ∉ field.2)
    (hquiet : e.key.head? ≠ some '?' ∧ Text.contains e.key Conditional.opener = false) {t : Text}
    (ht : Calm c t) :
    renderEntry e (t.flatMap (replace c k)) = (renderEntry e t).flatMap (replace c k) := by
  have hkey {name v : Text} (h : entryKeyValue e name = some v) : v = e.key := by
    rw [entryKeyValue, Option.ite_none_right_eq_some] at h
    obtain ⟨-, h⟩ := h
    cases h
    rfl
  have hcalm : Calm c (substitute (entryKeyValue e) t) := by
    refine calm_substitute (fun name v hv => ?_) ht
    rw [hkey hv]
    exact ⟨calm_of_not_mem he.1 hquiet.2, hquiet.1⟩
  have hkeyed := substitute_flatMap_text hk.word hat hc
    (fun name v (hv : entryKeyValue e name = some v) => hkey hv ▸ he.1) t
  rw [renderEntry, renderEntry, hkeyed, resolve, resolve,
    resolveLevels_eq_self e maxDepth (unread_flatMap hk hcalm),
    resolveLevels_eq_self e maxDepth hcalm.unread]
  exact substitute_flatMap_text hk.word hat hc (fun _ _ => not_mem_get? he) _

theorem not_mem_markers (hat : c ≠ '@') (hc : isWordChar c = false)
    (hmark : c ∉ ['?', '\x7b', '\x7d']) (kind : BlockKind) :
    c ∉ kind.opener ∧ c ∉ kind.closer := by
  have hname : c ∉ kind.name := not_mem_of_isWord kind.isWord_name hc
  simp only [List.mem_cons, List.not_mem_nil, or_false, not_or] at hmark
  rw [kind.opener_eq, kind.closer_eq]
  simp [placeholder, hat, hmark, hname]

theorem groupValue_flatMap (hc : isWordChar c = false) (id count : Nat) (name : Text) :
    groupValue k id count name =
      (groupValue [c] id count name).map (List.flatMap (replace c k)) := by
  have hid := flatMap_replace_of_not_mem (not_mem_of_isWord (isWord_ofNat id) hc) k
  have hcount := flatMap_replace_of_not_mem (not_mem_of_isWord (isWord_ofNat count) hc) k
  unfold groupValue
  split
  · simp
  split
  · rw [Option.map_some, hid]
  split
  · rw [Option.map_some, hcount]
  · rfl

theorem calm_groupValue (hmark : c ∉ ['?', '\x7b', '\x7d']) {id count : Nat} {name v : Text}
    (h : groupValue [c] id count name = some v) : Calm c v ∧ v.head? ≠ some '?' := by
  have hno : '?' ∉ v := by
    rcases (groupValue_eq_some h).2 with ⟨-, rfl⟩ | hword
    · simp only [List.mem_cons, List.not_mem_nil, or_false, not_or] at hmark ⊢
      exact Ne.symm hmark.1
    · intro hmem
      exact absurd (hword.2 _ hmem) (by decide)
  refine ⟨fun a _ hocc => hno (hocc.subset (by simp)), fun hhead => hno ?_⟩
  exact List.mem_of_mem_head? hhead

/-- Inert keys are data. -/
theorem keyIsData_of_inert (hk : Inert k) : KeyIsData k := by
  intro c id entries t hfresh hquiet ht
  by_cases hat : c = '@'
  · -- A template without the character has no mark at all.
    subst hat
    rw [renderGroup_of_not_mem hfresh.not_mem, renderGroup_of_not_mem hfresh.not_mem,
      flatMap_replace_of_not_mem hfresh.not_mem]
  · have hc := hfresh.not_word
    have hmarkers := not_mem_markers hat hc hfresh.not_mark .entry
    have hkeyed : substitute (groupValue k id entries.length) t =
        (substitute (groupValue [c] id entries.length) t).flatMap (replace c k) :=
      substitute_flatMap (fun a ha => replace_of_ne (fun hac : a = c => hfresh.not_mem (hac ▸ ha)) k)
        (groupValue_flatMap hc id entries.length)
    have hcalm : Calm c (substitute (groupValue [c] id entries.length) t) :=
      calm_substitute (fun _ _ => calm_groupValue hfresh.not_mark)
        (calm_of_not_mem hfresh.not_mem ht)
    rw [renderGroup, renderGroup, hkeyed]
    refine expandBlocks_flatMap hmarkers hk.opener hk.closer fun body hbody => ?_
    rw [List.flatMap_assoc]
    refine flatMap_congr fun e he => ?_
    exact renderEntry_flatMap hk hat hc (hfresh.not_mem_entries e he) (hquiet e he)
      (hcalm.of_infix hbody)

end Inert

end PubList.Template
