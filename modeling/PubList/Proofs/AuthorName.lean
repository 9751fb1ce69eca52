import PubList.Group.Key
import PubList.Proofs.Search
import PubList.Proofs.Trimming

/-!
# The last name of the first author

A name is written with its last name in front of a comma or behind its first names, and another list of
names may follow it. The last name is found in each of these spellings (`lastName_of_spelling`): the
search for the separator passes over the words of the name, since none of them is the word between two
names (`cutAt?_spaced`), and the words of the name are found again (`words_spaced`).
-/

namespace PubList.Entry

/-! ## Words with spaces between them -/

/-- Words with a space between every two of them. -/
def spaced (ws : List Text) : Text := List.intercalate [' '] ws

theorem spaced_singleton (w : Text) : spaced [w] = w := List.intercalate_singleton

theorem spaced_cons_cons (w next : Text) (ws : List Text) :
    spaced (w :: next :: ws) = w ++ ' ' :: spaced (next :: ws) := by
  simp [spaced]

/-- A word at the end stands behind a space. -/
theorem spaced_concat {ws : List Text} (h : ws ≠ []) (w : Text) :
    spaced (ws ++ [w]) = spaced ws ++ ' ' :: w := by
  induction ws with
  | nil => exact absurd rfl h
  | cons v ws ih =>
    cases ws with
    | nil => simp [spaced]
    | cons next ws =>
      have hrest : spaced ((next :: ws) ++ [w]) = spaced (next :: ws) ++ ' ' :: w := ih (by simp)
      rw [List.cons_append, List.cons_append, spaced_cons_cons, ← List.cons_append, hrest,
        spaced_cons_cons, List.append_assoc, List.cons_append]

/-- The first word is followed by a space, if by anything. -/
theorem exists_spaced_cons (w : Text) (ws : List Text) :
    ∃ t, spaced (w :: ws) = w ++ t ∧ ∀ c ∈ t.head?, c = ' ' := by
  cases ws with
  | nil => exact ⟨[], by simp [spaced], by simp⟩
  | cons next ws => exact ⟨_, spaced_cons_cons w next ws, by simp⟩

theorem mem_spaced {ws : List Text} {c : Char} (hc : c ∈ spaced ws) :
    c = ' ' ∨ ∃ w ∈ ws, c ∈ w := by
  induction ws with
  | nil => cases hc
  | cons w ws ih =>
    cases ws with
    | nil => exact .inr ⟨w, List.mem_cons_self, spaced_singleton w ▸ hc⟩
    | cons next ws =>
      rw [spaced_cons_cons, List.mem_append, List.mem_cons] at hc
      rcases hc with hc | hc | hc
      · exact .inr ⟨w, List.mem_cons_self, hc⟩
      · exact .inl hc
      · exact (ih hc).imp_right fun ⟨v, hv, hcv⟩ => ⟨v, List.mem_cons_of_mem w hv, hcv⟩

/-- A text without blanks that is not empty. -/
structure IsUnbroken (w : Text) : Prop where
  ne_nil : w ≠ []
  notBlank : ∀ c ∈ w, Text.isBlank c = false

/-- The words of a text are found again. -/
theorem words_spaced {ws : List Text} (h : ∀ w ∈ ws, IsUnbroken w) : Text.words (spaced ws) = ws := by
  have hword {w : Text} (hw : IsUnbroken w) :
      (Text.splitWhere Text.isBlank w).filter (· ≠ []) = [w] := by
    rw [Text.splitWhere_of_forall hw.notBlank]
    simp [hw.ne_nil]
  induction ws with
  | nil => rfl
  | cons w ws ih =>
    rw [List.forall_mem_cons] at h
    cases ws with
    | nil => rw [spaced_singleton, Text.words, hword h.1]
    | cons next ws =>
      have hrest : Text.words (spaced (next :: ws)) = next :: ws := ih h.2
      rw [spaced_cons_cons, Text.words, Text.splitWhere_append _ _ _ _ (by decide),
        List.filter_append, hword h.1]
      exact congrArg (w :: ·) hrest

/-- Words with spaces between them neither begin nor end with a blank. -/
theorem trim_spaced {ws : List Text} (h : ∀ w ∈ ws, IsUnbroken w) :
    Text.trim (spaced ws) = spaced ws := by
  refine Text.trimWhere_of_ends (fun c hc => ?_) fun c hc => ?_
  · cases ws with
    | nil => cases hc
    | cons w ws =>
      obtain ⟨t, hspaced, -⟩ := exists_spaced_cons w ws
      have hw : IsUnbroken w := h w List.mem_cons_self
      rw [hspaced, List.head?_append_of_ne_nil _ hw.ne_nil] at hc
      exact hw.notBlank c (List.mem_of_head? hc)
  · rcases List.eq_nil_or_concat ws with rfl | ⟨init, w, rfl⟩
    · cases hc
    · have hw : IsUnbroken w := h w (by simp)
      have hend : c ∈ w.getLast? := by
        by_cases hinit : init = []
        · rw [hinit, List.concat_eq_append, List.nil_append, spaced_singleton] at hc
          exact hc
        · obtain ⟨d, rest, hcons⟩ := List.exists_cons_of_ne_nil hw.ne_nil
          rw [List.concat_eq_append, spaced_concat hinit, hcons] at hc
          rw [hcons]
          simpa using hc
      exact hw.notBlank c (List.mem_of_getLast? hend)

/-! ## The end of a name -/

/-- A word that does not stand between two names. -/
structure IsInName (w : Text) : Prop extends IsUnbroken w where
  ne_and : w ≠ "and".toList

theorem IsInName.space_not_mem {w : Text} (h : IsInName w) : ' ' ∉ w := fun hmem =>
  absurd (h.notBlank ' ' hmem) (by decide)

/-- A separator at the space in front of a word would make it the word between two names. -/
theorem dropMark?_space_eq_none {next : Text} (hnext : IsInName next) (ws : List Text) {t : Text}
    (ht : ∀ c ∈ t.head?, c = ' ') :
    Text.dropMark? authorSeparator (' ' :: (spaced (next :: ws) ++ t)) = none := by
  obtain ⟨u, hspaced, hu⟩ := exists_spaced_cons next ws
  rw [Option.eq_none_iff_forall_ne_some]
  intro rest hrest
  have heq : next ++ (u ++ t) = "and".toList ++ ' ' :: rest := by
    rw [← List.append_assoc, ← hspaced]
    exact (List.cons.inj (Text.dropMark?_eq_some.1 hrest)).2
  cases hut : u ++ t with
  | nil =>
    rw [hut, List.append_nil] at heq
    exact hnext.space_not_mem (by simp [heq])
  | cons c v =>
    have hc : c = ' ' := by
      have hhead : (u ++ t).head? = some c := by rw [hut]; rfl
      rw [List.head?_append, Option.or_eq_some_iff] at hhead
      exact hhead.elim (hu c) fun h => ht c h.2
    rw [hut, hc] at heq
    exact hnext.ne_and (Text.append_cons_inj hnext.space_not_mem (by decide) heq).1

/-- The search for the end of a name passes over its words. -/
theorem cutAt?_spaced {ws : List Text} (h : ∀ w ∈ ws, IsInName w) {t : Text}
    (ht : ∀ c ∈ t.head?, c = ' ') :
    Text.cutAt? authorSeparator (spaced ws ++ t) =
      Text.shift (spaced ws) (Text.cutAt? authorSeparator t) := by
  have hword {w : Text} (hw : IsInName w) (t : Text) :
      Text.cutAt? authorSeparator (w ++ t) = Text.shift w (Text.cutAt? authorSeparator t) :=
    Text.cutAt?_append_of_not_mem hw.space_not_mem t
  induction ws with
  | nil => simp [spaced]
  | cons w ws ih =>
    rw [List.forall_mem_cons] at h
    cases ws with
    | nil =>
      rw [spaced_singleton]
      exact hword h.1 t
    | cons next ws =>
      have hpass := dropMark?_space_eq_none (h.2 next List.mem_cons_self) ws ht
      rw [spaced_cons_cons, List.append_assoc, List.cons_append, hword h.1,
        Text.cutAt?_cons_of_none hpass, ih h.2, ← Text.shift_append, ← Text.shift_append,
        List.append_assoc, List.singleton_append]

/-- The words of the first name are the first author, whatever names follow. -/
theorem firstAuthor_spaced {ws : List Text} (h : ∀ w ∈ ws, IsInName w) :
    firstAuthor (spaced ws) = spaced ws ∧
      ∀ rest, firstAuthor (spaced ws ++ authorSeparator ++ rest) = spaced ws := by
  have htrim : Text.trim (spaced ws) = spaced ws := trim_spaced fun w hw => (h w hw).toIsUnbroken
  constructor
  · have hcut := cutAt?_spaced h (t := []) (by simp)
    rw [List.append_nil] at hcut
    rw [firstAuthor, hcut]
    exact htrim
  · intro rest
    have hcut := cutAt?_spaced h (t := authorSeparator ++ rest) fun c hc => (Option.some.inj hc).symm
    rw [Text.cutAt?_mark_append, Text.shift_some, List.append_nil] at hcut
    rw [firstAuthor, List.append_assoc, hcut]
    exact htrim

/-! ## Spellings of a name -/

/-- A word of a name has no comma either. -/
structure IsNameWord (w : Text) : Prop extends IsInName w where
  noComma : ',' ∉ w

/-- A last name, which is more than braces, and the first names that go with it. -/
structure Name where
  last : Text
  first : List Text
  last_isNameWord : IsNameWord last
  last_ne_braces : Text.trimWhere isBrace last ≠ []
  first_ne_nil : first ≠ []
  first_isNameWord : ∀ w ∈ first, IsNameWord w

namespace Name

/-- The name with its last name first. -/
def lastFirst (n : Name) : Text := n.last ++ ", ".toList ++ spaced n.first

/-- The name with its first names first. -/
def firstLast (n : Name) : Text := spaced n.first ++ " ".toList ++ n.last

/-- The lists of authors that begin with the name: in either spelling, alone or with a rest behind it. -/
def spellings (n : Name) (rest : Text) : List Text :=
  [n.lastFirst, n.firstLast,
    n.lastFirst ++ authorSeparator ++ rest, n.firstLast ++ authorSeparator ++ rest]

/-- The comma belongs to the first word of the name. -/
theorem lastFirst_eq (n : Name) : n.lastFirst = spaced ((n.last ++ [',']) :: n.first) := by
  obtain ⟨next, first, hfirst⟩ := List.exists_cons_of_ne_nil n.first_ne_nil
  rw [lastFirst, hfirst, spaced_cons_cons]
  simp

theorem firstLast_eq (n : Name) : n.firstLast = spaced (n.first ++ [n.last]) := by
  rw [firstLast, spaced_concat n.first_ne_nil, List.append_assoc]
  rfl

theorem lastNameOf?_lastFirst (n : Name) : lastNameOf? n.lastFirst = some n.last := by
  have hcut : Text.cutAtChar? ',' n.lastFirst = some (n.last, ' ' :: spaced n.first) := by
    rw [lastFirst, List.append_assoc]
    exact Text.cutAtChar?_append n.last_isNameWord.noComma _
  have htrim : Text.trim n.last = n.last := Text.trimWhere_eq_self n.last_isNameWord.notBlank
  rw [lastNameOf?, hcut]
  exact congrArg some htrim

theorem lastNameOf?_firstLast (n : Name) : lastNameOf? n.firstLast = some n.last := by
  have hwords : ∀ w ∈ n.first ++ [n.last], IsNameWord w :=
    List.forall_mem_append.2 ⟨n.first_isNameWord, by simpa using n.last_isNameWord⟩
  have hcut : Text.cutAtChar? ',' n.firstLast = none := by
    refine Text.cutAt?_eq_none.2 fun hcomma => ?_
    rw [firstLast_eq] at hcomma
    rcases mem_spaced (hcomma.subset List.mem_cons_self) with h | ⟨w, hw, hmem⟩
    · cases h
    · exact (hwords w hw).noComma hmem
  rw [lastNameOf?, hcut, firstLast_eq]
  show (Text.words _).getLast? = some n.last
  rw [words_spaced fun w hw => (hwords w hw).toIsUnbroken]
  simp

/-- The first author of the list is one of the two spellings. -/
theorem firstAuthor_of_mem_spellings (n : Name) {rest authors : Text}
    (h : authors ∈ n.spellings rest) :
    firstAuthor authors = n.lastFirst ∨ firstAuthor authors = n.firstLast := by
  have hlastComma : IsInName (n.last ++ [',']) := by
    refine ⟨⟨by simp, fun c hc => ?_⟩, fun hand => ?_⟩
    · rcases List.mem_append.1 hc with hc | hc
      · exact n.last_isNameWord.notBlank c hc
      · obtain rfl := List.mem_singleton.1 hc
        decide
    · have hcomma : ',' ∈ "and".toList := hand ▸ List.mem_append_right n.last List.mem_cons_self
      exact absurd hcomma (by decide)
  have hfirst : ∀ w ∈ n.first, IsInName w := fun w hw => (n.first_isNameWord w hw).toIsInName
  have hconcat : ∀ w ∈ n.first ++ [n.last], IsInName w :=
    List.forall_mem_append.2 ⟨hfirst, by simpa using n.last_isNameWord.toIsInName⟩
  obtain ⟨hlastFirst, hlastFirstRest⟩ :=
    firstAuthor_spaced (List.forall_mem_cons.2 ⟨hlastComma, hfirst⟩)
  obtain ⟨hfirstLast, hfirstLastRest⟩ := firstAuthor_spaced hconcat
  rw [← lastFirst_eq] at hlastFirst hlastFirstRest
  rw [← firstLast_eq] at hfirstLast hfirstLastRest
  simp only [spellings, List.mem_cons, List.not_mem_nil, or_false] at h
  rcases h with rfl | rfl | rfl | rfl
  · exact .inl hlastFirst
  · exact .inr hfirstLast
  · exact .inl (hlastFirstRest rest)
  · exact .inr (hfirstLastRest rest)

/-- The first letter of a last name is the first character between its braces. -/
theorem firstLetter_last (n : Name) :
    Group.firstLetter (some (Text.trimWhere isBrace n.last)) =
      (Text.trimWhere isBrace n.last).take 1 := by
  have hhead : ∀ c ∈ (Text.trimWhere isBrace n.last).head?,
      (decide (c = '\x7b') || Text.isBlank c) = false := by
    intro c hc
    have hbrace : isBrace c = false := Text.head?_trimWhere c hc
    have hblank : Text.isBlank c = false :=
      n.last_isNameWord.notBlank c (Text.mem_of_mem_trimWhere (List.mem_of_head? hc))
    simp only [isBrace, Bool.or_eq_false_iff] at hbrace
    rw [hbrace.1, hblank]
    rfl
  rw [Group.firstLetter, Option.getD_some, Text.dropWhile_of_head hhead]

end Name

/-- **Both spellings of a name give the same last name and the same group.** In each of them, alone or
with any text behind the separator, the last name is the one between the braces, and the key of the group
is its first character. -/
theorem lastName_of_spelling (n : Name) (rest : Text) {authors : Text}
    (hauthors : authors ∈ n.spellings rest) {e : Entry} (he : e.author? = some authors) :
    e.firstAuthorLastName? = some (Text.trimWhere isBrace n.last) ∧
      Group.keyOf .author e = (Text.trimWhere isBrace n.last).take 1 := by
  have hlast : lastNameOf? (firstAuthor authors) = some n.last := by
    rcases n.firstAuthor_of_mem_spellings hauthors with h | h
    · rw [h, n.lastNameOf?_lastFirst]
    · rw [h, n.lastNameOf?_firstLast]
  have hname : e.firstAuthorLastName? = some (Text.trimWhere isBrace n.last) := by
    rw [firstAuthorLastName?, he, Option.bind_some, hlast, Option.map_some]
    simp [n.last_ne_braces]
  refine ⟨hname, ?_⟩
  rw [Group.keyOf, hname]
  exact n.firstLetter_last

/-- A last name in braces that ends like the separator begins, and more names behind it. -/
theorem lastName_of_spelling_braces :
    let e : Entry := ⟨[], [("author".toList, "J. andy \x7bSand\x7d and Roe, R. and others".toList)]⟩
    e.firstAuthorLastName? = some "Sand".toList ∧ Group.keyOf .author e = "S".toList := by
  intro e
  let n : Name :=
    { last := "\x7bSand\x7d".toList
      first := ["J.".toList, "andy".toList]
      last_isNameWord := ⟨⟨⟨by decide, by decide⟩, by decide⟩, by decide⟩
      last_ne_braces := by decide
      first_ne_nil := by decide
      first_isNameWord := by
        rintro w (_ | ⟨_, _ | ⟨_, ⟨⟩⟩⟩) <;> exact ⟨⟨⟨by decide, by decide⟩, by decide⟩, by decide⟩ }
  exact lastName_of_spelling n "Roe, R. and others".toList (by decide) rfl

end PubList.Entry
