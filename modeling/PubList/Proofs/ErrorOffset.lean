import PubList.Proofs.BlockCheck
import PubList.Proofs.TwoSteps

/-!
# The offset in an error

The check of a template runs on the text in which the placeholders for the list are filled in, and
the offset that it reports counts in that text. No value for the list makes a marker, so the marker
that the error is about stands in the template, too; the offset is the size of what the text in front
of it is filled in to (`render_error_offset`). It is the place of the marker in the template if no
placeholder for the list stands in front of it, and it need not be if there is one
(`render_error_offset_filled`).
-/

namespace PubList

/-- The offset that is reported. -/
def TemplateError.offset : TemplateError → Nat
  | nestedGroup offset => offset
  | unclosedEntry offset => offset

/-- The marker that the offset is about. -/
def TemplateError.marker : TemplateError → Text
  | nestedGroup _ => Template.BlockKind.group.opener
  | unclosedEntry _ => Template.BlockKind.group.closer

namespace Template

open Text (IsWord utf8Size)

/-! ## The place in the text that is checked -/

theorem checkBlocks_error_offset {offset : Nat} {t : Text} {err : TemplateError}
    (h : checkBlocks offset t = .error err) :
    ∃ x y, t = x ++ (err.marker ++ y) ∧ err.offset = offset + utf8Size x := by
  fun_induction checkBlocks offset t with
  | case1 => cases h
  | case2 offset t b hsome bodyStart inner rest hinner =>
    cases h
    have hbody : b.body = inner ++ BlockKind.group.opener ++ rest := Text.eq_of_cutAt? hinner
    refine ⟨b.before ++ BlockKind.group.opener ++ inner, rest ++ BlockKind.group.closer ++ b.after,
      ?_, ?_⟩
    · rw [eq_append_of_findBlock? hsome, hbody, TemplateError.marker]
      simp only [List.append_assoc]
    · simp only [TemplateError.offset, bodyStart, Text.utf8Size_append]
      omega
  | case3 offset t b hsome bodyStart bodyEnd hinner hopen =>
    cases h
    refine ⟨b.before ++ BlockKind.group.opener ++ b.body, b.after, ?_, ?_⟩
    · rw [eq_append_of_findBlock? hsome, TemplateError.marker]
      simp only [List.append_assoc]
    · simp only [TemplateError.offset, bodyStart, bodyEnd, Text.utf8Size_append]
      omega
  | case4 offset t b hsome bodyStart bodyEnd hinner hopen ih =>
    obtain ⟨x, y, hafter, hoffset⟩ := ih h
    refine ⟨b.before ++ BlockKind.group.opener ++ b.body ++ BlockKind.group.closer ++ x, y, ?_, ?_⟩
    · rw [eq_append_of_findBlock? hsome, hafter]
      simp only [List.append_assoc]
    · rw [hoffset]
      simp only [bodyStart, bodyEnd, Text.utf8Size_append]
      omega

/-! ## The place in the template -/

section Substitution

variable {lookup : Text → Option Text}

/-- A mark that is put out stands in the template, behind what is filled in to the text in front of
it, if no value is part of it. -/
theorem exists_mark_of_substitute_eq {t m before after : Text} (hm : '@' ∉ m)
    (hvalue : ∀ name v, lookup name = some v → '@' ∉ v ∧ ¬ v <:+: m)
    (h : substitute lookup t = before ++ (placeholder m ++ after)) :
    ∃ x y, t = x ++ (placeholder m ++ y) ∧ substitute lookup x = before := by
  -- An `@` that opens nothing known begins the mark or stands in front of it.
  have hat {t before : Text} (ht : Closed lookup t)
      (ih : ∀ {before}, substitute lookup t = before ++ (placeholder m ++ after) →
        ∃ x y, t = x ++ (placeholder m ++ y) ∧ substitute lookup x = before)
      (h : '@' :: substitute lookup t = before ++ (placeholder m ++ after)) :
      ∃ x y, '@' :: t = x ++ (placeholder m ++ y) ∧ substitute lookup x = before := by
    cases before with
    | nil =>
      rw [List.nil_append, placeholder_append] at h
      obtain ⟨y, rfl⟩ := exists_of_substitute_eq hm hvalue (List.cons.inj h).2
      exact ⟨[], y, by rw [List.nil_append, placeholder_append], substitute_nil lookup⟩
    | cons b before =>
      obtain ⟨rfl, hbehind⟩ := List.cons.inj h
      obtain ⟨x, y, rfl, hx⟩ := ih hbehind
      exact ⟨'@' :: x, y, rfl, by rw [substitute_at_of_closed ht.of_append, hx]⟩
  fun_induction substitute lookup t generalizing before with
  | case1 => simp [placeholder] at h
  | case2 t name hname v hv ih =>
    obtain ⟨hword, rest, rfl⟩ := wordBeforeAt?_eq_some hname
    rw [drop_word_append] at h ih
    -- The value has no `@`, so the mark stands behind it.
    have hbehind : ∃ u, before = v ++ u ∧ substitute lookup rest = u ++ (placeholder m ++ after) := by
      rcases List.append_eq_append_iff.1 h with ⟨u, hu, hrest⟩ | ⟨u, hu, hrest⟩
      · exact ⟨u, hu, hrest⟩
      · cases u with
        | nil => exact ⟨[], by simpa using hu.symm, hrest.symm⟩
        | cons a u =>
          obtain ⟨rfl, -⟩ := List.cons.inj hrest
          exact absurd (hu ▸ List.mem_append_right before List.mem_cons_self) (hvalue name v hv).1
    obtain ⟨u, rfl, hrest⟩ := hbehind
    obtain ⟨x, y, rfl, hx⟩ := ih hrest
    refine ⟨placeholder name ++ x, y, ?_, ?_⟩
    · rw [List.append_assoc, placeholder_append name]
    · rw [substitute_placeholder lookup hword hv, hx]
  | case3 t name hname hv ih =>
    have ht : Closed lookup t := by
      intro name' hname'
      cases hname.symm.trans hname'
      exact hv
    exact hat ht ih h
  | case4 t hname ih => exact hat (closed_of_eq_none hname) ih h
  | case5 c t hc ih =>
    cases before with
    | nil => exact absurd (List.cons.inj h).1 hc
    | cons b before =>
      obtain ⟨rfl, hbehind⟩ := List.cons.inj h
      obtain ⟨x, y, rfl, hx⟩ := ih hbehind
      exact ⟨c :: x, y, rfl, by rw [substitute_cons_of_ne lookup hc, hx]⟩

end Substitution

/-! ## The offset -/

/-- The marker of an error has the form of a placeholder, and no value for the list is part of it. -/
theorem exists_marker_eq (err : TemplateError) (mode : GroupMode) (n : Nat) :
    ∃ m, err.marker = placeholder m ∧ '@' ∉ m ∧
      ∀ name v, globalValue mode n name = some v → '@' ∉ v ∧ ¬ v <:+: m := by
  have hvalue {m : Text} (hdigit : ∀ c ∈ m, c.isDigit = false)
      (hmode : Text.contains m mode.name = false) (name v : Text)
      (hv : globalValue mode n name = some v) : '@' ∉ v ∧ ¬ v <:+: m :=
    ⟨not_at_mem_of_isWord (globalValue_eq_some hv).2.1,
      not_infix_of_globalValue hv hdigit (Text.contains_eq_false_iff.1 hmode)⟩
  cases err with
  | nestedGroup =>
    exact ⟨_, BlockKind.group.opener_eq, by decide, hvalue (by decide) (by cases mode <;> decide)⟩
  | unclosedEntry =>
    exact ⟨_, BlockKind.group.closer_eq, by decide, hvalue (by decide) (by cases mode <;> decide)⟩

/-- **The offset in an error.** The marker that an error is about stands in the template. The offset is
the size of what the text in front of it is filled in to, and of that text itself if it has no
placeholder for the list. -/
theorem render_error_offset {config : Config} {groups : List Group} {t : Text} {err : TemplateError}
    (h : render config groups t = .error err) :
    ∃ x y, t = x ++ (err.marker ++ y) ∧
      err.offset = utf8Size (substitute (globalValue config.groupBy groups.length) x) ∧
      ((∀ name ∈ globalNames, ¬ placeholder name <:+: x) → err.offset = utf8Size x) := by
  obtain ⟨m, hmarker, hm, hvalue⟩ := exists_marker_eq err config.groupBy groups.length
  have hcheck := (render_eq_error_iff.1 h).2
  obtain ⟨before, after, hplace, hoffset⟩ := checkBlocks_error_offset hcheck
  rw [hmarker] at hplace
  obtain ⟨x, y, ht, hx⟩ := exists_mark_of_substitute_eq hm hvalue hplace
  rw [Nat.zero_add, ← hx] at hoffset
  refine ⟨x, y, by rw [hmarker, ht], hoffset, fun hplain => ?_⟩
  rw [hoffset, substitute_globalValue_eq_self hplain]

/-- A group that is opened in the first block is found at once. -/
theorem checkBlocks_of_nested {offset : Nat} {t inner rest : Text} {b : Block}
    (h : findBlock? .group t = some b)
    (hinner : Text.cutAt? BlockKind.group.opener b.body = some (inner, rest)) :
    checkBlocks offset t = .error (.nestedGroup
      (offset + utf8Size (b.before ++ BlockKind.group.opener) + utf8Size inner)) := by
  rw [checkBlocks]
  split
  · next h' => simp [h] at h'
  · next h' =>
    cases h.symm.trans h'
    simp only [hinner]

/-- The second group is opened three bytes, a marker and a blank behind the start of the template. -/
theorem render_error_offset_accented :
    let config : Config := { }
    let t : Text := "é @\x7bgroup@ @\x7bgroup@ @\x7dgroup@".toList
    render config [] t = .error (.nestedGroup 12) ∧
      ∃ x y, t = x ++ (BlockKind.group.opener ++ y) ∧
        12 = utf8Size (substitute (globalValue config.groupBy 0) x) ∧
        ((∀ name ∈ globalNames, ¬ placeholder name <:+: x) → 12 = utf8Size x) := by
  intro config t
  have hglobal : ∀ name ∈ globalNames, Text.contains t (placeholder name) = false := by decide
  have hfind : findBlock? .group t = some ⟨"é ".toList, " @\x7bgroup@ ".toList, []⟩ := by decide
  have hinner : Text.cutAt? BlockKind.group.opener " @\x7bgroup@ ".toList = some ([' '], [' ']) := by
    decide
  have hcheck : checkBlocks 0 t = .error (.nestedGroup 12) := checkBlocks_of_nested hfind hinner
  have herror : render config [] t = .error (.nestedGroup 12) := by
    rw [render_eq_error_iff, substitute_globalValue_eq_self fun name hname =>
      Text.contains_eq_false_iff.1 (hglobal name hname)]
    exact ⟨rfl, hcheck⟩
  exact ⟨herror, render_error_offset herror⟩

/-- The number of the groups is shorter than its placeholder. The offset that is reported is eleven,
and no marker begins there. -/
theorem render_error_offset_filled :
    let config : Config := { }
    let t : Text := "@globalgroupcount@ @\x7bgroup@ @\x7bgroup@ @\x7dgroup@".toList
    render config [] t = .error (.nestedGroup 11) ∧
      ∀ x y, t = x ++ (BlockKind.group.opener ++ y) → utf8Size x ≠ 11 := by
  intro config t
  let filled : Text := "0 @\x7bgroup@ @\x7bgroup@ @\x7dgroup@".toList
  have hfilled : substitute (globalValue config.groupBy 0) t = filled := by
    let rest : Text := " @\x7bgroup@ @\x7bgroup@ @\x7dgroup@".toList
    have hrest : ∀ name ∈ globalNames, Text.contains rest (placeholder name) = false := by decide
    have ht : t = placeholder "globalgroupcount".toList ++ rest := rfl
    have hname : IsWord "globalgroupcount".toList := by decide
    have hvalue : globalValue config.groupBy 0 "globalgroupcount".toList = some ['0'] := rfl
    rw [ht, substitute_placeholder _ hname hvalue, substitute_globalValue_eq_self fun name hname =>
      Text.contains_eq_false_iff.1 (hrest name hname)]
    rfl
  have hfind : findBlock? .group filled = some ⟨"0 ".toList, " @\x7bgroup@ ".toList, []⟩ := by decide
  have hinner : Text.cutAt? BlockKind.group.opener " @\x7bgroup@ ".toList = some ([' '], [' ']) := by
    decide
  have hcheck : checkBlocks 0 filled = .error (.nestedGroup 11) := checkBlocks_of_nested hfind hinner
  refine ⟨render_eq_error_iff.2 ⟨rfl, ?_⟩, ?_⟩
  · exact hfilled ▸ hcheck
  · -- The place of a marker is told by how much of the template it leaves behind.
    have hplaces : ∀ w, w <:+ t → BlockKind.group.opener <+: w → utf8Size w + 11 ≠ utf8Size t := by
      decide +kernel
    intro x y ht hx
    refine hplaces _ ⟨x, ht.symm⟩ ⟨y, rfl⟩ ?_
    rw [ht, Text.utf8Size_append x, hx, Nat.add_comm]

end Template

end PubList
