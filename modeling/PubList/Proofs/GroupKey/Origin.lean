import PubList.Group.Key

/-!
# Where a group key comes from

The key of a group is a value of an entry, or the first letter of a part of one: its characters are
characters of the value (`Group.keyOf_subset`). Where an entry lacks a character that means something
to the templates, its group key lacks it too (`Group.not_mem_keyOf`).
-/

namespace PubList

namespace Text

theorem trimWhere_subset (p : Char → Bool) (t : Text) : trimWhere p t ⊆ t := by
  intro c hc
  have hstart := (List.dropWhile_suffix p).subset (List.mem_reverse.1 hc)
  exact (List.dropWhile_suffix p).subset (List.mem_reverse.1 hstart)

theorem subset_of_mem_splitWhere {p : Char → Bool} {t part : Text} (h : part ∈ splitWhere p t) :
    part ⊆ t := by
  induction t generalizing part with
  | nil =>
    rw [splitWhere, List.mem_singleton] at h
    simp [h]
  | cons c t ih =>
    rw [splitWhere] at h
    split at h
    · rcases List.mem_cons.1 h with rfl | h
      · simp
      · exact List.Subset.trans (ih h) (List.subset_cons_self c t)
    · obtain ⟨first, parts, hparts⟩ := List.exists_cons_of_ne_nil (splitWhere_ne_nil p t)
      rw [hparts] at h ih
      rcases List.mem_cons.1 h with rfl | h
      · exact List.cons_subset_cons c (ih List.mem_cons_self)
      · exact List.Subset.trans (ih (List.mem_cons_of_mem first h)) (List.subset_cons_self c t)

theorem subset_of_mem_words {t word : Text} (h : word ∈ words t) : word ⊆ t :=
  subset_of_mem_splitWhere (List.mem_filter.1 h).1

theorem subset_of_cutAt? {mark t before after : Text} (h : cutAt? mark t = some (before, after)) :
    before ⊆ t := by
  rw [eq_of_cutAt? h, List.append_assoc]
  exact List.subset_append_left _ _

end Text

namespace Entry

/-- Neither the key of the entry nor a value of its fields has the character. -/
def Lacks (e : Entry) (c : Char) : Prop := c ∉ e.key ∧ ∀ field ∈ e.fields, c ∉ field.2

instance (e : Entry) (c : Char) : Decidable (e.Lacks c) :=
  inferInstanceAs (Decidable (c ∉ e.key ∧ ∀ field ∈ e.fields, c ∉ field.2))

theorem Lacks.not_mem_of_get? {e : Entry} {c : Char} (he : e.Lacks c) {name v : Text}
    (h : e.get? name = some v) : c ∉ v := by
  rw [get?] at h
  split at h
  · cases h
    exact he.1
  · obtain ⟨before, after, hfields, -⟩ := List.lookup_eq_some_iff.1 h
    exact he.2 (name, v) (by simp [hfields])

theorem firstAuthor_subset (authors : Text) : firstAuthor authors ⊆ authors := by
  rw [firstAuthor]
  refine List.Subset.trans (Text.trimWhere_subset _ _) ?_
  split
  · next h => exact Text.subset_of_cutAt? h
  · exact List.Subset.refl _

theorem subset_of_lastNameOf? {name last : Text} (h : lastNameOf? name = some last) :
    last ⊆ name := by
  rw [lastNameOf?] at h
  split at h
  · next hcut =>
    cases h
    exact List.Subset.trans (Text.trimWhere_subset _ _) (Text.subset_of_cutAt? hcut)
  · exact Text.subset_of_mem_words (List.mem_of_getLast? h)

theorem subset_of_firstAuthorLastName? {e : Entry} {last : Text}
    (h : e.firstAuthorLastName? = some last) : ∃ authors, e.author? = some authors ∧ last ⊆ authors := by
  obtain ⟨hmap, -⟩ := Option.filter_eq_some_iff.1 h
  obtain ⟨name, hname, rfl⟩ := Option.map_eq_some_iff.1 hmap
  obtain ⟨authors, hauthors, hlast⟩ := Option.bind_eq_some_iff.1 hname
  refine ⟨authors, hauthors, List.Subset.trans (Text.trimWhere_subset _ _) ?_⟩
  exact List.Subset.trans (subset_of_lastNameOf? hlast) (firstAuthor_subset authors)

end Entry

namespace Group

theorem firstLetter_subset (t : Option Text) : firstLetter t ⊆ t.getD [] :=
  List.Subset.trans (List.take_subset _ _) (List.dropWhile_suffix _).subset

/-- The key of a group is the common one, or its characters come from one value of the entry. -/
theorem keyOf_subset (mode : GroupMode) (e : Entry) :
    keyOf mode e = ungroupedKey ∨ ∃ name, keyOf mode e ⊆ (e.get? name).getD [] := by
  cases mode with
  | none => exact .inl rfl
  | year => exact .inr ⟨Entry.yearName, List.Subset.refl _⟩
  | title => exact .inr ⟨Entry.titleName, firstLetter_subset _⟩
  | author =>
    refine .inr ⟨Entry.authorName, List.Subset.trans (firstLetter_subset _) ?_⟩
    cases hlast : e.firstAuthorLastName? with
    | none => simp
    | some last =>
      obtain ⟨authors, hauthors, hsub⟩ := Entry.subset_of_firstAuthorLastName? hlast
      have hget : e.get? Entry.authorName = some authors := hauthors
      rw [hget]
      exact hsub

theorem not_mem_keyOf {e : Entry} {c : Char} (he : e.Lacks c) (hc : c ∉ ungroupedKey)
    (mode : GroupMode) : c ∉ keyOf mode e := by
  rcases keyOf_subset mode e with hall | ⟨name, hsub⟩
  · rwa [hall]
  · intro hmem
    cases hget : e.get? name with
    | none => simpa [hget] using hsub hmem
    | some v =>
      rw [hget] at hsub
      exact he.not_mem_of_get? hget (hsub hmem)

end Group

end PubList
