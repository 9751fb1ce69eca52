import PubList.Proofs.GroupKey.Marks

/-!
# The group keys that are data

`keyIsData_iff_inert` says for which group keys the law of `KeyIsData` holds. A key such as
`2020 (in print)` is one of them (`inert_of_not_mem`). No word is (`not_inert_of_isWord`), since a
template can put a word between two `@`, and neither is `@title@`, which is read as a placeholder
wherever it stands in an entry block (`renderGroup_reads_key`).
-/

namespace PubList.Template

open Text (IsWord isWordChar)

/-! ## Inert and other keys -/

/-- A text without `@` that is part of a mark, whatever stands around it, is part of what stands in
the mark. -/
theorem infix_of_not_clear {m k : Text} (hat : '@' ∉ k) (h : ¬ Clear (placeholder m) k) :
    ∃ x y, x ++ k ++ y = m := by
  rcases cases_of_not_clear h with ⟨a, b, rfl⟩ | ⟨a, q, y, rfl, -⟩ | ⟨x, p, b, rfl, -⟩ | hpart
  · simp [placeholder] at hat
  · simp at hat
  · simp at hat
  · exact hpart

/-- A key without `@` is inert if a character that no word has keeps it from being part of a name,
and if it does not begin like a mark behind its `@`. -/
theorem inert_of_not_mem {k : Text} (hat : '@' ∉ k) (hbreak : ∃ c ∈ k, isWordChar c = false)
    (hhead : Text.NoHead ['?', '\x7b', '\x7d'] k) : Inert k := by
  obtain ⟨c, hc, hcword⟩ := hbreak
  have hmarker {z : Char} (hz : z ∈ ['?', '\x7b', '\x7d']) (kind : BlockKind) :
      Clear (placeholder (z :: kind.name)) k := by
    refine Classical.byContradiction fun hnot => ?_
    obtain ⟨x, y, heq⟩ := infix_of_not_clear hat hnot
    cases x with
    | nil =>
      -- The key would begin like the marker.
      obtain ⟨a, k', rfl⟩ := List.exists_cons_of_ne_nil (List.ne_nil_of_mem hc)
      obtain ⟨rfl, -⟩ := List.cons.inj heq
      exact hhead a hz rfl
    | cons b x =>
      have hname : x ++ k ++ y = kind.name := (List.cons.inj heq).2
      have hmem : c ∈ kind.name := by simp [← hname, hc]
      exact absurd hmem (not_mem_of_isWord kind.isWord_name hcword)
  refine ⟨?_, ?_, fun name hname => ?_, ?_⟩
  · rw [BlockKind.opener_eq]
    exact hmarker (by decide) .entry
  · rw [BlockKind.closer_eq]
    exact hmarker (by decide) .entry
  · refine Classical.byContradiction fun hnot => ?_
    obtain ⟨x, y, rfl⟩ := infix_of_not_clear hat hnot
    exact absurd (by simp [hc]) (not_mem_of_isWord hname hcword)
  · rintro before after t rfl (rfl | hlast)
    · exact absurd rfl (hhead '?' (by decide))
    · exact absurd (List.mem_append_left _ (List.mem_of_getLast? hlast)) hat

/-- A word is not inert: a template can make a placeholder of it. -/
theorem not_inert_of_isWord {k : Text} (hk : IsWord k) : ¬ Inert k := by
  intro h
  rcases h.word k hk ['@'] ['@'] [] [] (by simp [placeholder]) with hx | hy
  · have hlength := hx.length_le
    simp [placeholder] at hlength
  · have hlength := hy.length_le
    simp [placeholder] at hlength

/-! ## The keys that are data -/

/-- **Group keys as data.** A group key is data in every template without conditionals exactly if it
is inert: it is part of no marker of an entry block, of no placeholder and of no head of a
conditional, whatever stands around it. -/
theorem keyIsData_iff_inert (k : Text) : KeyIsData k ↔ Inert k := by
  constructor
  · intro h
    exact ⟨clear_opener_of_keyIsData h, clear_closer_of_keyIsData h,
      fun _ hname => clear_word_of_keyIsData h hname,
      fun _ _ _ hk hbefore => not_opens_of_keyIsData h hk hbefore⟩
  · exact keyIsData_of_inert

/-- The key `@title@` is read as a placeholder in the body of an entry block: it becomes the title of
the entry. -/
theorem renderGroup_reads_key :
    let e : Entry := ⟨"a".toList, [("title".toList, "First".toList)]⟩
    let t : Text := "@\x7bentry@@groupkey@@\x7dentry@".toList
    (FreshKey '#' [e] t ∧ QuietKeys [e] ∧ Text.contains t Conditional.opener = false) ∧
      renderGroup "@title@".toList 0 [e] t = "First".toList ∧
      (renderGroup ['#'] 0 [e] t).flatMap (replace '#' "@title@".toList) = "@title@".toList := by
  intro e t
  have hblock {key : Text} (hkey : PassesCloser .entry key) :
      renderGroup key 0 [e] t = renderEntry e key := by
    have hfind : findBlock? .entry (marked .entry ([] ++ (key ++ []))) =
        some ⟨[], [] ++ (key ++ []), []⟩ := by
      simpa using findBlock?_marked (Passes.nil _) hkey []
    have hcloser : Wordless ([] ++ BlockKind.entry.closer) := by decide
    have htext : t = BlockKind.entry.opener ++ [] ++
        (placeholder "groupkey".toList ++ ([] ++ BlockKind.entry.closer)) := rfl
    rw [htext, renderGroup_around e Fills.nil hcloser hfind, List.nil_append, List.append_nil]
  have htitle : renderEntry e (placeholder "title".toList) = "First".toList := by
    have hkeyed : substitute (entryKeyValue e) (placeholder "title".toList) =
        placeholder "title".toList :=
      (Fills.mark (by decide) fun _ => rfl).carries.substitute_eq
    have hunread : Unread (placeholder "title".toList) :=
      (calm_of_not_mem (c := '#') (by decide) (by decide)).unread
    have hget : e.get? "title".toList = some "First".toList := rfl
    rw [renderEntry, hkeyed, resolve, resolveLevels_eq_self e maxDepth hunread]
    exact (Fills.known (by decide) hget).carries.substitute_eq
  have hsharp : renderEntry e ['#'] = ['#'] := renderEntry_of_wordless (by decide) (by decide) e
  have hpass : PassesCloser .entry ['#'] := by
    simpa using Passes.append_of_not_mem (s := ['#']) (by decide) (Passes.nil _)
  refine ⟨⟨⟨by decide, by decide, by decide, by decide⟩, by unfold QuietKeys; decide, by decide⟩,
    ?_, ?_⟩
  · exact (hblock (Passes.mark (by decide) (by decide) (by decide))).trans htitle
  · rw [hblock hpass, hsharp]
    rfl

end PubList.Template
