import PubList.Proofs.LeftmostShortest

/-!
# Conditionals inside one another on the same field

A block ends at the first closing mark for its field. So a conditional inside another one on the same
field lends the outer one its closing mark: of the outer conditional, the separator, the second branch
and the closing mark are left over, and the inner conditional does not become what it becomes on its
own (`resolve_nested`).

The searches follow the text from one `@` to the next one: `cutAt?_at_append` is the step.
-/

namespace PubList.Template

open Text (IsWord isWordChar cutAt? shift)

/-! ## Texts with few `@` -/

/-- Two `@` belong to the head of a block and two to its closing mark. -/
theorem IsBlock.count_at {t body rest : Text} {c : Condition} (h : IsBlock t c body rest) :
    4 ≤ t.count '@' := by
  rw [h.text_eq, Condition.text_around]
  simp [placeholder, List.count_append]
  omega

theorem not_startsBlock_of_count {t : Text} (h : t.count '@' < 4) : ¬ StartsBlock t := by
  rintro ⟨c, body, rest, hblock⟩
  exact absurd hblock.count_at (Nat.not_le.2 h)

/-- A text stays if no block starts with it and too few `@` for a block come behind its first
character. -/
theorem resolveLevels_of_count (e : Entry) (levels : Nat) {t : Text} (hstart : ¬ StartsBlock t)
    (hcount : t.tail.count '@' < 4) : resolveLevels e levels t = t := by
  have hno (w : Text) (hw : w <:+ t ++ []) : ¬ StartsBlock w := by
    rw [List.append_nil] at hw
    cases t with
    | nil => rwa [List.suffix_nil.1 hw]
    | cons a t =>
      rcases List.suffix_cons_iff.1 hw with rfl | hw
      · exact hstart
      · exact not_startsBlock_of_count (Nat.lt_of_le_of_lt (hw.sublist.count_le '@') hcount)
  have hstay := resolveLevels_append_of_first e levels fun w hw _ => hno w hw
  simpa using hstay

/-! ## Branches -/

/-- The separator and the second branch, if there is one. -/
def elseText (field : Text) : (no : Option Text) → Text
  | none => []
  | some no => placeholder (':' :: field) ++ no

/-- The text of a branch, without `@`, that makes no mark for the field together with an `@` on either
side. -/
structure IsPlainBranch (field t : Text) : Prop where
  not_mem : '@' ∉ t
  ne_closer : t ≠ ';' :: field
  ne_separator : t ≠ ':' :: field

instance (field t : Text) : Decidable (IsPlainBranch field t) :=
  decidable_of_iff ('@' ∉ t ∧ t ≠ ';' :: field ∧ t ≠ ':' :: field)
    ⟨fun h => ⟨h.1, h.2.1, h.2.2⟩, fun h => ⟨h.not_mem, h.ne_closer, h.ne_separator⟩⟩

section Branches

variable {field : Text} {no : Option Text}

theorem head?_elseText (field : Text) (no : Option Text) {t : Text} (ht : ∀ c ∈ t.head?, c = '@') :
    ∀ c ∈ (elseText field no ++ t).head?, c = '@' := by
  cases no with
  | none => exact ht
  | some no => simp [elseText, placeholder]

/-- The first closing mark behind a second branch is the one that is written there. -/
theorem cutAt?_closer_elseText (hfield : IsWord field) (hno : ∀ t ∈ no, IsPlainBranch field t)
    (rest : Text) :
    cutAt? (placeholder (';' :: field)) (elseText field no ++ (placeholder (';' :: field) ++ rest)) =
      some (elseText field no, rest) := by
  have hmark := Text.cutAt?_mark_append (placeholder (';' :: field)) rest
  cases no with
  | none => exact hmark
  | some no =>
    have hat : '@' ∉ field := not_at_mem_of_isWord hfield
    have hplain : IsPlainBranch field no := hno no rfl
    have hcloser : '@' ∉ ';' :: field := by simp [hat]
    have hbranch := cutAt?_at_append (t := placeholder (';' :: field) ++ rest) hcloser
      hplain.not_mem hplain.ne_closer (by simp [placeholder])
    have htext : elseText field (some no) ++ (placeholder (';' :: field) ++ rest) =
        '@' :: (':' :: field ++ '@' :: (no ++ (placeholder (';' :: field) ++ rest))) := by
      simp [elseText, placeholder]
    rw [htext, cutAt?_at_append hcloser (by simp [hat]) (by simp) (by simp), hbranch, hmark]
    simp [elseText, placeholder]

theorem cutAt?_separator_elseText :
    cutAt? (placeholder (':' :: field)) (elseText field no) = no.map ([], ·) := by
  cases no with
  | none => rfl
  | some no => exact Text.cutAt?_mark_append (placeholder (':' :: field)) no

theorem not_mem_chosen {yes : Text} (hyes : IsPlainBranch field yes)
    (hno : ∀ t ∈ no, IsPlainBranch field t) (p : Bool) : '@' ∉ if p then yes else no.getD [] := by
  cases p with
  | true => exact hyes.not_mem
  | false =>
    cases no with
    | none => simp
    | some no => exact (hno no rfl).not_mem

end Branches

/-! ## A conditional on its own -/

/-- A conditional whose body ends at the first closing mark becomes what its branch becomes one level
further down. -/
theorem resolve_around (e : Entry) {c : Condition} (hc : c.WellFormed) {body rest : Text}
    (hbody : cutAt? (placeholder (';' :: c.field)) (body ++ (placeholder (';' :: c.field) ++ rest)) =
      some (body, rest)) :
    resolve e ((c.around body).text ++ rest) =
      resolveLevels e (maxDepth - 1) ((c.around body).branch e) ++ resolve e rest := by
  obtain ⟨t, htext, hread⟩ := read?_around hc hbody
  rw [htext]
  exact resolveLevels_succ_of_read? e (maxDepth - 1) hread

/-- The branch that is chosen, from the cut at the separator. -/
theorem branch_of_cutAt? (e : Entry) {c : Condition} {body yes : Text} {no : Option Text}
    (hcut : cutAt? (placeholder (':' :: c.field)) body = no.map (yes, ·))
    (hbody : no = none → body = yes) :
    (c.around body).branch e = if c.holds e then yes else no.getD [] := by
  have hcut : cutAt? (Conditional.separator (c.around body).field) (c.around body).body =
      no.map (yes, ·) := hcut
  rw [Conditional.branch, Condition.holds_around, Conditional.thenPart, Conditional.elsePart, hcut]
  cases no with
  | none => rw [← hbody rfl]; rfl
  | some no => rfl

/-- A conditional with a first branch and, if there is one, a second one. -/
def Condition.write (c : Condition) (yes : Text) (no : Option Text) : Text :=
  (c.around (yes ++ elseText c.field no)).text

/-- A conditional becomes the branch that the entry chooses. -/
theorem resolve_write (e : Entry) {c : Condition} (hc : c.WellFormed) {yes : Text}
    {no : Option Text} (hyes : IsPlainBranch c.field yes)
    (hno : ∀ t ∈ no, IsPlainBranch c.field t) :
    resolve e (c.write yes no) = if c.holds e then yes else no.getD [] := by
  have hcloser : cutAt? (placeholder (';' :: c.field)) (yes ++ elseText c.field no ++
      (placeholder (';' :: c.field) ++ [])) = some (yes ++ elseText c.field no, []) := by
    rw [List.append_assoc, cutAt?_placeholder_append hyes.not_mem, cutAt?_closer_elseText hc.1 hno,
      Text.shift_some]
  have hseparator : cutAt? (placeholder (':' :: c.field)) (yes ++ elseText c.field no) =
      no.map (yes, ·) := by
    rw [cutAt?_placeholder_append hyes.not_mem, cutAt?_separator_elseText]
    cases no <;> simp
  have hbranch := branch_of_cutAt? e hseparator fun hnone => by simp [hnone, elseText]
  have hresolve := resolve_around e hc hcloser
  have hstay := resolveLevels_append_of_not_mem e (maxDepth - 1)
    (not_mem_chosen hyes hno (c.holds e)) []
  rw [List.append_nil, hbranch] at hresolve
  rw [resolveLevels_nil, List.append_nil] at hstay
  rw [Condition.write, hresolve, hstay, resolve, resolveLevels_nil, List.append_nil]

/-! ## A conditional in the first branch of another one -/

/-- The condition that asks for the field and makes no test. -/
def Condition.present (field : Text) : Condition := ⟨field, none⟩

/-- What a conditional in the first branch of another one on the same field leaves of the outer one:
its separator, its second branch and its closing mark. -/
def remainder (field otherwise : Text) : Text :=
  placeholder (':' :: field) ++ otherwise ++ placeholder (';' :: field)

/-- From the head of a conditional on, a search for another mark of its field passes over the head and
the first branch. -/
theorem cutAt?_question_append {c : Condition} (hc : c.WellFormed) {k : Char} (hk : k ∈ [':', ';'])
    {yes : Text} (hyes : '@' ∉ yes) (hne : yes ≠ k :: c.field) {t : Text}
    (ht : ∀ a ∈ t.head?, a = '@') :
    cutAt? (placeholder (k :: c.field)) (placeholder c.question ++ (yes ++ t)) =
      shift (placeholder c.question ++ yes) (cutAt? (placeholder (k :: c.field)) t) := by
  have hmark : '@' ∉ k :: c.field := by
    have hall : ∀ k ∈ [':', ';'], '@' ≠ k := by decide
    rw [List.mem_cons, not_or]
    exact ⟨hall k hk, not_at_mem_of_isWord hc.1⟩
  have hhead : c.question ≠ k :: c.field := by
    rw [Condition.question]
    intro h
    rw [← (List.cons.inj h).1] at hk
    simp at hk
  rw [placeholder_append,
    cutAt?_at_append hmark (Condition.at_not_mem_question hc) hhead (by simp),
    cutAt?_at_append hmark hyes hne ht, ← Text.shift_append]
  simp [placeholder]

/-- If the field is there, the head and the first branch of the inner conditional stay; if not, its
second branch stays. What is left of the outer conditional comes behind. -/
theorem resolve_nested_eq (e : Entry) {c : Condition} (hc : c.WellFormed) {yes otherwise : Text}
    {no : Option Text} (hyes : IsPlainBranch c.field yes)
    (hno : ∀ t ∈ no, IsPlainBranch c.field t) (hotherwise : '@' ∉ otherwise) :
    resolve e ((Condition.present c.field).write (c.write yes no) (some otherwise)) =
      (if (Condition.present c.field).holds e then placeholder c.question ++ yes else no.getD []) ++
        remainder c.field otherwise := by
  have hat : '@' ∉ c.field := not_at_mem_of_isWord hc.1
  have houter : (Condition.present c.field).WellFormed := ⟨hc.1, trivial⟩
  -- The outer conditional takes the closing mark of the inner one.
  have htext : (Condition.present c.field).write (c.write yes no) (some otherwise) =
      ((Condition.present c.field).around
        (placeholder c.question ++ (yes ++ elseText c.field no))).text ++
          remainder c.field otherwise := by
    simp [Condition.write, Condition.text_around, Condition.present, remainder, elseText,
      placeholder]
  have hcloser : cutAt? (placeholder (';' :: c.field))
      (placeholder c.question ++ (yes ++ elseText c.field no) ++
        (placeholder (';' :: c.field) ++ remainder c.field otherwise)) =
      some (placeholder c.question ++ (yes ++ elseText c.field no), remainder c.field otherwise) := by
    have hhead := head?_elseText c.field no
      (t := placeholder (';' :: c.field) ++ remainder c.field otherwise) (by simp [placeholder])
    have hcut := cutAt?_question_append hc (by simp) hyes.not_mem hyes.ne_closer hhead
    rw [cutAt?_closer_elseText hc.1 hno] at hcut
    simpa using hcut
  have hseparator : cutAt? (placeholder (':' :: c.field))
      (placeholder c.question ++ (yes ++ elseText c.field no)) =
      no.map (placeholder c.question ++ yes, ·) := by
    have hhead := head?_elseText c.field no (t := []) (by simp)
    rw [List.append_nil] at hhead
    rw [cutAt?_question_append hc (by simp) hyes.not_mem hyes.ne_separator hhead,
      cutAt?_separator_elseText]
    cases no <;> simp
  have hbranch := branch_of_cutAt? (c := Condition.present c.field) e hseparator
    fun hnone => by simp [hnone, elseText]
  have hresolve := resolve_around (c := Condition.present c.field) e houter hcloser
  -- Neither what is chosen nor what is left over has enough `@` for a block.
  have hremainder : resolve e (remainder c.field otherwise) = remainder c.field otherwise := by
    refine resolveLevels_of_count e maxDepth (fun h => ?_) ?_
    · obtain ⟨t, ht, -⟩ := startsBlock_iff.1 h
      simp [remainder, placeholder] at ht
    · simp [remainder, placeholder, List.count_append, List.count_eq_zero.2 hat,
        List.count_eq_zero.2 hotherwise]
  have hchosen : resolveLevels e (maxDepth - 1)
      (if (Condition.present c.field).holds e then placeholder c.question ++ yes else no.getD []) =
      if (Condition.present c.field).holds e then placeholder c.question ++ yes else no.getD [] := by
    have hcount : (if (Condition.present c.field).holds e then placeholder c.question ++ yes
        else no.getD []).count '@' < 4 := by
      split
      · simp [placeholder, List.count_append, List.count_eq_zero.2 hyes.not_mem,
          List.count_eq_zero.2 (Condition.at_not_mem_question hc)]
      · cases no with
        | none => simp
        | some no => simp [List.count_eq_zero.2 (hno no rfl).not_mem]
    exact resolveLevels_of_count e _ (not_startsBlock_of_count hcount)
      (Nat.lt_of_le_of_lt ((List.tail_sublist _).count_le '@') hcount)
  rw [htext, hresolve, hbranch, hchosen, hremainder]

/-- **Conditionals inside one another on the same field.** A conditional that asks whether a field is
there, with another conditional on this field as its first branch, is never resolved to what the inner
conditional becomes on its own if the field is there, and to the second branch if not. What it
becomes instead ends with the separator, the second branch and the closing mark of the outer
conditional. -/
theorem resolve_nested (e : Entry) {c : Condition} (hc : c.WellFormed) {yes otherwise : Text}
    {no : Option Text} (hyes : IsPlainBranch c.field yes)
    (hno : ∀ t ∈ no, IsPlainBranch c.field t) (hotherwise : '@' ∉ otherwise) :
    resolve e ((Condition.present c.field).write (c.write yes no) (some otherwise)) =
        (if (Condition.present c.field).holds e then placeholder c.question ++ yes else no.getD []) ++
          remainder c.field otherwise ∧
      resolve e ((Condition.present c.field).write (c.write yes no) (some otherwise)) ≠
        if (Condition.present c.field).holds e then resolve e (c.write yes no) else otherwise := by
  refine ⟨resolve_nested_eq e hc hyes hno hotherwise, ?_⟩
  rw [resolve_nested_eq e hc hyes hno hotherwise, resolve_write e hc hyes hno]
  -- What is left over has an `@`, and no branch has one.
  have hat : '@' ∈ remainder c.field otherwise := by simp [remainder, placeholder]
  have hplain : '@' ∉ if (Condition.present c.field).holds e then
      if c.holds e then yes else no.getD [] else otherwise := by
    split
    · exact not_mem_chosen hyes hno (c.holds e)
    · exact hotherwise
  intro h
  rw [← h] at hplain
  exact hplain (List.mem_append_right _ hat)

/-- Without a year, the second branch of the inner conditional comes in place of that of the outer
one. -/
theorem resolve_nested_undated :
    let e : Entry := ⟨"k".toList, []⟩
    let c : Condition := ⟨"year".toList, some (.atLeast, "2000".toList)⟩
    (c.WellFormed ∧ IsPlainBranch c.field "new".toList ∧
        (∀ t ∈ some "old".toList, IsPlainBranch c.field t) ∧ '@' ∉ "undated".toList) ∧
      resolve e "@?year@@?year>=2000@new@:year@old@;year@@:year@undated@;year@".toList =
          "old@:year@undated@;year@".toList ∧
        resolve e "@?year@@?year>=2000@new@:year@old@;year@@:year@undated@;year@".toList ≠
          "undated".toList := by
  intro e c
  have hplain : (c.WellFormed ∧ IsPlainBranch c.field "new".toList ∧
      (∀ t ∈ some "old".toList, IsPlainBranch c.field t) ∧ '@' ∉ "undated".toList) := by
    decide
  obtain ⟨hc, hyes, hno, hotherwise⟩ := id hplain
  exact ⟨hplain, resolve_nested e hc hyes hno hotherwise⟩

/-- For the year 2021 the conditional on its own becomes `new`, but inside the other one its head
stays. -/
theorem resolve_nested_dated :
    let e : Entry := ⟨"k".toList, [("year".toList, "2021".toList)]⟩
    resolve e "@?year@@?year>=2000@new@:year@old@;year@@:year@undated@;year@".toList =
        "@?year>=2000@new@:year@undated@;year@".toList ∧
      resolve e "@?year>=2000@new@:year@old@;year@".toList = "new".toList := by
  intro e
  have hc : Condition.WellFormed ⟨"year".toList, some (.atLeast, "2000".toList)⟩ := by decide
  have hyes : IsPlainBranch "year".toList "new".toList := by decide
  have hno : ∀ t ∈ some "old".toList, IsPlainBranch "year".toList t := by decide
  have hotherwise : '@' ∉ "undated".toList := by decide
  exact ⟨resolve_nested_eq e hc hyes hno hotherwise, resolve_write e hc hyes hno⟩

end PubList.Template
