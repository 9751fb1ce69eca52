import PubList.Proofs.Mark

/-!
# Values are passed through

A substitution treats the values that it puts in as opaque: it is parametric in them
(`substitute_flatMap`), and a text that it puts out is made of the characters of the template and of
the values.
-/

namespace PubList.Template

open Text (IsWord isWordChar)

/-- A replacement of characters that keeps every character of a text keeps the text. -/
theorem flatMap_eq_self {ρ : Char → Text} {t : Text} (h : ∀ c ∈ t, ρ c = [c]) : t.flatMap ρ = t := by
  induction t with
  | nil => rfl
  | cons c t ih =>
    rw [List.forall_mem_cons] at h
    rw [List.flatMap_cons, h.1, ih h.2, List.singleton_append]

section Substitution

variable {lookup : Text → Option Text} {t : Text}

/-- The rest of a text behind a name and its closing `@`. -/
theorem drop_word_append (name rest : Text) :
    (name ++ '@' :: rest).drop (name.length + 1) = rest := by
  rw [← List.drop_drop, List.drop_left, List.drop_one, List.tail_cons]

theorem mem_of_mem_substitute {c : Char} (h : c ∈ substitute lookup t) :
    c ∈ t ∨ ∃ name v, lookup name = some v ∧ c ∈ v := by
  fun_induction substitute lookup t with
  | case1 => cases h
  | case2 t name hname v hv ih =>
    rcases List.mem_append.1 h with h | h
    · exact .inr ⟨name, v, hv, h⟩
    · rcases ih h with h | h
      · exact .inl (List.mem_cons_of_mem _ (List.mem_of_mem_drop h))
      · exact .inr h
  | case3 t name hname hv ih | case4 t hname ih | case5 a t ha ih =>
    rcases List.mem_cons.1 h with rfl | h
    · exact .inl List.mem_cons_self
    · exact (ih h).imp_left (List.mem_cons_of_mem _)

/-- A substitution is parametric in the values that it puts in. -/
theorem substitute_flatMap {lookup' : Text → Option Text} {ρ : Char → Text}
    (ht : ∀ c ∈ t, ρ c = [c])
    (hlookup : ∀ name, lookup name = (lookup' name).map (List.flatMap ρ)) :
    substitute lookup t = (substitute lookup' t).flatMap ρ := by
  fun_induction substitute lookup' t with
  | case1 => simp
  | case2 t name hname v hv ih =>
    obtain ⟨hword, rest, rfl⟩ := wordBeforeAt?_eq_some hname
    have hmark : '@' :: (name ++ '@' :: rest) = placeholder name ++ rest :=
      (placeholder_append name rest).symm
    have hrest : ∀ c ∈ rest, ρ c = [c] := fun c hc => ht c (by simp [hc])
    rw [drop_word_append] at ih ⊢
    rw [hmark, substitute_placeholder lookup hword (by rw [hlookup, hv]; rfl) rest, ih hrest,
      List.flatMap_append]
  | case3 t name hname hv ih =>
    rw [List.forall_mem_cons] at ht
    have hclosed : Closed lookup t := by
      intro name' hname'
      cases hname.symm.trans hname'
      rw [hlookup, hv, Option.map_none]
    rw [substitute_at_of_closed hclosed, ih ht.2, List.flatMap_cons, ht.1, List.singleton_append]
  | case4 t hname ih =>
    rw [List.forall_mem_cons] at ht
    rw [substitute_at_of_closed (closed_of_eq_none hname), ih ht.2, List.flatMap_cons, ht.1,
      List.singleton_append]
  | case5 c t hc ih =>
    rw [List.forall_mem_cons] at ht
    rw [substitute_cons_of_ne lookup hc, ih ht.2, List.flatMap_cons, ht.1, List.singleton_append]

/-! ## Texts that no value can complete -/

/-- A text without word characters and `@` at the start of what is put out stands at the start of the
template, if every value is a word. -/
theorem prefix_of_prefix_substitute {s : Text} (hs : ∀ c ∈ s, c ≠ '@' ∧ isWordChar c = false)
    (hvalue : ∀ name v, lookup name = some v → IsWord v) (h : s <+: substitute lookup t) :
    s <+: t := by
  induction s generalizing t with
  | nil => exact List.nil_prefix
  | cons a s ih =>
    rw [List.forall_mem_cons] at hs
    obtain ⟨⟨hat, hword⟩, hs⟩ := hs
    -- The first character is neither a value's nor an `@`, so it is passed.
    cases t with
    | nil =>
      rw [substitute_nil] at h
      exact absurd (List.prefix_nil.1 h) (by simp)
    | cons c t =>
      by_cases hc : c = '@'
      · subst hc
        rw [substitute] at h
        simp only [↓reduceIte] at h
        split at h
        · next name _ =>
          split at h
          · next v hv =>
            obtain ⟨hne, hall⟩ := hvalue name v hv
            cases v with
            | nil => exact absurd rfl hne
            | cons b v =>
              obtain ⟨rfl, -⟩ := List.cons_prefix_cons.1 h
              have hb := hall a (by simp)
              simp [hword] at hb
          · exact absurd (List.cons_prefix_cons.1 h).1 hat
        · exact absurd (List.cons_prefix_cons.1 h).1 hat
      · rw [substitute_cons_of_ne lookup hc] at h
        obtain ⟨rfl, hrest⟩ := List.cons_prefix_cons.1 h
        exact List.cons_prefix_cons.2 ⟨rfl, ih hs hrest⟩

/-- A text without word characters and `@` in what is put out stands in the template, if every value
is a word. -/
theorem infix_of_infix_substitute {s : Text} (hne : s ≠ [])
    (hs : ∀ c ∈ s, c ≠ '@' ∧ isWordChar c = false)
    (hvalue : ∀ name v, lookup name = some v → IsWord v) (h : s <:+: substitute lookup t) :
    s <:+: t := by
  obtain ⟨a, s, rfl⟩ := List.exists_cons_of_ne_nil hne
  have hword : isWordChar a = false := (hs a (by simp)).2
  fun_induction substitute lookup t with
  | case1 => exact absurd (List.infix_nil.1 h) (by simp)
  | case2 t name hname v hv ih =>
    have hdrop : a :: s <:+: substitute lookup (t.drop (name.length + 1)) := by
      -- It cannot begin in the value.
      have hav : a ∉ v := fun ha => by simp [(hvalue name v hv).2 a ha] at hword
      rcases List.infix_append_iff.1 h with h | h | ⟨s₁, s₂, heq, h₁, h₂⟩
      · exact absurd (h.subset List.mem_cons_self) hav
      · exact h
      · cases s₁ with
        | nil =>
          rw [heq]
          exact h₂.isInfix
        | cons b s₁ =>
          obtain ⟨rfl, -⟩ := List.cons.inj heq
          exact absurd (h₁.subset List.mem_cons_self) hav
    exact (ih hdrop).trans ((List.drop_suffix _ _).trans (List.suffix_cons '@' t)).isInfix
  | case3 t name hname hv ih | case4 t hname ih =>
    rcases List.infix_cons_iff.1 h with h | h
    · exact absurd (List.cons_prefix_cons.1 h).1 (hs a (by simp)).1
    · exact (ih h).trans (List.suffix_cons _ _).isInfix
  | case5 c t hc ih =>
    rcases List.infix_cons_iff.1 h with h | h
    · rw [← substitute_cons_of_ne lookup hc] at h
      exact (prefix_of_prefix_substitute hs hvalue h).isInfix
    · exact (ih h).trans (List.suffix_cons _ _).isInfix

end Substitution

end PubList.Template
