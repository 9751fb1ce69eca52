import PubList.Proofs.GroupKey.Law

/-!
# Surroundings for a group key

To see whether a key is read as markup, it is put between two texts. What a mark needs of the texts
on its sides is a proper beginning and a proper end of the mark (`exists_trimmed`), which leaves four
ways for the key to be part of it (`cases_of_not_clear`). The templates for the law have such texts
around `@groupkey@`: the pass for the group leaves the texts as they are and puts the key in
(`substitute_around`).
-/

namespace PubList.Template

open Text (IsWord isWordChar)

/-! ## Trimming the surroundings of a mark -/

section Trim

variable {m x y a b s : Text}

theorem exists_trimmed_left (h : x ++ s = a ++ (m ++ b)) (hx : ¬ a ++ m <+: x) :
    ∃ x' a', x' ++ s = a' ++ (m ++ b) ∧ (x' = [] ∨ a' = [] ∧ x' <+: m ∧ x' ≠ m) := by
  rcases List.append_eq_append_iff.1 h with ⟨w, -, hs⟩ | ⟨w, rfl, hw⟩
  · exact ⟨[], w, hs, .inl rfl⟩
  · have hnot : ¬ m <+: w := fun hm => hx ((List.prefix_append_right_inj a).2 hm)
    have hne : w ≠ m := fun hwm => hnot (hwm ▸ List.prefix_rfl)
    refine ⟨w, [], hw.symm, .inr ⟨rfl, ?_, hne⟩⟩
    rcases List.prefix_or_prefix_of_prefix ⟨s, hw.symm⟩ (List.prefix_append m b) with hwm | hmw
    · exact hwm
    · exact absurd hmw hnot

theorem exists_trimmed_right (h : s ++ y = (a ++ m) ++ b) (hy : ¬ m ++ b <:+ y) :
    ∃ y' b', s ++ y' = (a ++ m) ++ b' ∧ (y' = [] ∨ b' = [] ∧ y' <:+ m ∧ y' ≠ m) := by
  rcases List.append_eq_append_iff.1 h with ⟨w, ham, rfl⟩ | ⟨w, hs, -⟩
  · have hnot : ¬ m <:+ w := by
      rintro ⟨w', rfl⟩
      exact hy ⟨w', by simp⟩
    have hne : w ≠ m := fun hwm => hnot (hwm ▸ List.suffix_rfl)
    refine ⟨w, [], by rw [ham, List.append_nil], .inr ⟨rfl, ?_, hne⟩⟩
    rcases List.suffix_or_suffix_of_suffix ⟨s, ham.symm⟩ (List.suffix_append a m) with hwm | hmw
    · exact hwm
    · exact absurd hmw hnot
  · exact ⟨[], w, by rw [hs, List.append_nil], .inl rfl⟩

/-- If `k` is part of a mark in some surroundings, it is so in surroundings that are parts of the
mark. -/
theorem exists_trimmed {k : Text} (h : ¬ Clear m k) :
    ∃ x y a b, x ++ k ++ y = a ++ m ++ b ∧ (x = [] ∨ a = [] ∧ x <+: m ∧ x ≠ m) ∧
      (y = [] ∨ b = [] ∧ y <:+ m ∧ y ≠ m) := by
  simp only [Clear, Classical.not_forall, not_or] at h
  obtain ⟨x, y, a, b, heq, hx, hy⟩ := h
  rw [List.append_assoc, List.append_assoc] at heq
  obtain ⟨x', a', heq, hx'⟩ := exists_trimmed_left heq hx
  rw [← List.append_assoc, ← List.append_assoc] at heq
  obtain ⟨y', b', heq, hy'⟩ := exists_trimmed_right heq hy
  exact ⟨x', y', a', b', heq, hx', hy'⟩

/-- If `k` is part of a mark in some surroundings, it is so between a proper beginning and a proper
end of the mark. -/
theorem exists_proper_parts {k : Text} (hm : m ≠ []) (h : ¬ Clear m k) :
    ∃ x y, m <:+: x ++ (k ++ y) ∧ (x <+: m ∧ x ≠ m) ∧ (y <:+ m ∧ y ≠ m) := by
  obtain ⟨x, y, a, b, heq, hx, hy⟩ := exists_trimmed h
  refine ⟨x, y, ⟨a, b, by rw [← heq, List.append_assoc]⟩, ?_, ?_⟩
  · rcases hx with rfl | ⟨-, hx⟩
    · exact ⟨List.nil_prefix, Ne.symm hm⟩
    · exact hx
  · rcases hy with rfl | ⟨-, hy⟩
    · exact ⟨List.nil_suffix, Ne.symm hm⟩
    · exact hy

end Trim

/-- A proper beginning of a mark is empty or an `@` with a beginning of what stands in the mark. -/
theorem eq_of_prefix_placeholder {m x : Text} (h : x <+: placeholder m) (hne : x ≠ placeholder m) :
    x = [] ∨ ∃ x', x = '@' :: x' ∧ x' <+: m := by
  rcases List.prefix_cons_iff.1 h with rfl | ⟨x', rfl, hx⟩
  · exact .inl rfl
  · rcases List.prefix_concat_iff.1 hx with rfl | hx
    · exact absurd rfl hne
    · exact .inr ⟨x', rfl, hx⟩

/-- A proper end of a mark is empty or an end of what stands in the mark with an `@`. -/
theorem eq_of_suffix_placeholder {m y : Text} (h : y <:+ placeholder m) (hne : y ≠ placeholder m) :
    y = [] ∨ ∃ y', y = y' ++ ['@'] ∧ y' <:+ m := by
  rcases List.suffix_cons_iff.1 h with rfl | hy
  · exact absurd rfl hne
  · rcases List.suffix_concat_iff.1 hy with rfl | ⟨y', rfl, hy'⟩
    · exact .inl rfl
    · exact .inr ⟨y', rfl, hy'⟩

/-- A text that is part of a mark in some surroundings has the whole mark, ends with a beginning of
it, starts with an end of it, or is part of what stands in it. -/
theorem cases_of_not_clear {m k : Text} (h : ¬ Clear (placeholder m) k) :
    (∃ a b, k = a ++ (placeholder m ++ b)) ∨ (∃ a q y, k = a ++ '@' :: q ∧ m = q ++ y) ∨
      (∃ x p b, k = p ++ '@' :: b ∧ m = x ++ p) ∨ ∃ x y, x ++ k ++ y = m := by
  obtain ⟨x, y, a, b, heq, hx, hy⟩ := exists_trimmed h
  have hleft : x = [] ∨ ∃ x' p, a = [] ∧ x = '@' :: x' ∧ m = x' ++ p := by
    rcases hx with hx | ⟨ha, hx, hne⟩
    · exact .inl hx
    · rcases eq_of_prefix_placeholder hx hne with hx | ⟨x', hx, p, hp⟩
      · exact .inl hx
      · exact .inr ⟨x', p, ha, hx, hp.symm⟩
  have hright : y = [] ∨ ∃ y' q, b = [] ∧ y = y' ++ ['@'] ∧ m = q ++ y' := by
    rcases hy with hy | ⟨hb, hy, hne⟩
    · exact .inl hy
    · rcases eq_of_suffix_placeholder hy hne with hy | ⟨y', hy, q, hq⟩
      · exact .inl hy
      · exact .inr ⟨y', q, hb, hy, hq.symm⟩
  rcases hleft with rfl | ⟨x', p, rfl, rfl, hp⟩ <;> rcases hright with rfl | ⟨y', q, rfl, rfl, hq⟩
  · exact .inl ⟨a, b, by simpa using heq⟩
  · refine .inr (.inl ⟨a, q, y', ?_, hq⟩)
    have heq' : k ++ (y' ++ ['@']) = (a ++ '@' :: q) ++ (y' ++ ['@']) := by
      simpa [placeholder, hq] using heq
    exact List.append_cancel_right heq'
  · refine .inr (.inr (.inl ⟨x', p, b, ?_, hp⟩))
    have heq' : ('@' :: x') ++ k = ('@' :: x') ++ (p ++ '@' :: b) := by
      simpa [placeholder, hp] using heq
    exact List.append_cancel_left heq'
  · refine .inr (.inr (.inr ⟨x', y', ?_⟩))
    have heq' : ('@' :: (x' ++ k ++ y')) ++ ['@'] = ('@' :: m) ++ ['@'] := by
      simpa [placeholder] using heq
    exact (List.cons.inj (List.append_cancel_right heq')).2

/-! ## Templates with surroundings for the key -/

/-- No `@` of the text opens a placeholder. -/
def Wordless : Text → Prop
  | [] => True
  | a :: t => (a = '@' → wordBeforeAt? t = none) ∧ Wordless t

instance decidableWordless : (t : Text) → Decidable (Wordless t)
  | [] => inferInstanceAs (Decidable True)
  | a :: t =>
    have := decidableWordless t
    inferInstanceAs (Decidable ((a = '@' → wordBeforeAt? t = none) ∧ Wordless t))

theorem wordless_append_of_not_mem {s t : Text} (hs : '@' ∉ s) (ht : Wordless t) :
    Wordless (s ++ t) := by
  induction s with
  | nil => exact ht
  | cons a s ih =>
    rw [List.mem_cons, not_or] at hs
    exact ⟨fun ha => absurd ha.symm hs.1, ih hs.2⟩

theorem substitute_of_wordless {lookup : Text → Option Text} {t : Text} (ht : Wordless t) :
    substitute lookup t = t := by
  induction t with
  | nil => exact substitute_nil lookup
  | cons a t ih =>
    by_cases ha : a = '@'
    · subst ha
      rw [substitute_at_of_closed (closed_of_eq_none (ht.1 rfl)), ih ht.2]
    · rw [substitute_cons_of_ne lookup ha, ih ht.2]

/-- An entry leaves a text without placeholders and conditionals as it is. -/
theorem renderEntry_of_wordless {t : Text} (ht : Wordless t) (hquestion : '?' ∉ t) (e : Entry) :
    renderEntry e t = t := by
  have hunread : Unread t := by
    rintro u v rfl
    simp at hquestion
  rw [renderEntry, substitute_of_wordless ht, resolve, resolveLevels_eq_self e maxDepth hunread,
    substitute_of_wordless ht]

/-- The pass for a group puts the key in, and leaves the surroundings as they are. -/
theorem substitute_around {key x y : Text} {id count : Nat}
    (hx : Fills (groupValue key id count) x x) (hy : Wordless y) :
    substitute (groupValue key id count) (x ++ (placeholder "groupkey".toList ++ y)) =
      x ++ (key ++ y) := by
  have hclosed : Closed (groupValue key id count) (placeholder "groupkey".toList ++ y) := closed_at _
  have hvalue : groupValue key id count "groupkey".toList = some key := rfl
  rw [hx.carries _ hclosed, substitute_placeholder _ (by decide) hvalue, substitute_of_wordless hy]

section Law

variable {k x y : Text}

/-- A template for the law: the key in its surroundings, without the characters `#` and `?`. -/
theorem freshKey_around {entries : List Entry} (hsharp : '#' ∉ x ++ y)
    (hentries : ∀ e ∈ entries, '#' ∉ e.key ∧ ∀ field ∈ e.fields, '#' ∉ field.1 ∧ '#' ∉ field.2) :
    FreshKey '#' entries (x ++ (placeholder "groupkey".toList ++ y)) where
  not_word := by decide
  not_mark := by decide
  not_mem := by
    rw [List.mem_append, not_or] at hsharp
    have hkey : '#' ∉ placeholder "groupkey".toList := by decide
    simp only [List.mem_append, not_or]
    exact ⟨hsharp.1, hkey, hsharp.2⟩
  not_mem_entries := hentries

theorem contains_around (hquestion : '?' ∉ x ++ y) :
    Text.contains (x ++ (placeholder "groupkey".toList ++ y)) Conditional.opener = false := by
  rw [Text.contains_eq_false_iff]
  intro hocc
  have hmem : '?' ∈ x ++ (placeholder "groupkey".toList ++ y) := hocc.subset (by decide)
  have hkey : '?' ∉ placeholder "groupkey".toList := by decide
  simp only [List.mem_append, not_or] at hquestion hmem
  rcases hmem with hmem | hmem | hmem
  · exact hquestion.1 hmem
  · exact hkey hmem
  · exact hquestion.2 hmem

theorem flatMap_around (hsharp : '#' ∉ x ++ y) :
    (x ++ '#' :: y).flatMap (replace '#' k) = x ++ (k ++ y) := by
  rw [List.mem_append, not_or] at hsharp
  rw [List.flatMap_append, flatMap_replace_cons_self, flatMap_replace_of_not_mem hsharp.1,
    flatMap_replace_of_not_mem hsharp.2]

end Law

end PubList.Template
