import PubList.Text.Search

/-!
# Where a search finds its mark

A search finds a mark exactly if the mark occurs in the text (`cutAt?_eq_none`). Where a search
passes over the first part of a text, it goes on in the rest as if the part were not there: `shift`
puts the part back in front of what the rest is cut into.
-/

namespace PubList.Text

/-- What stands before the first `a` of a text, and what follows it, is determined. -/
theorem append_cons_inj {a : Char} {s s' t t' : Text} (hs : a ∉ s) (hs' : a ∉ s')
    (h : s ++ a :: t = s' ++ a :: t') : s = s' ∧ t = t' := by
  rcases List.append_eq_append_iff.1 h with ⟨u, rfl, hu⟩ | ⟨u, rfl, hu⟩
  · cases u with
    | nil => simpa using hu
    | cons b u =>
      obtain ⟨rfl, -⟩ := List.cons.inj hu
      simp at hs'
  · cases u with
    | nil => simpa using hu.symm
    | cons b u =>
      obtain ⟨rfl, -⟩ := List.cons.inj hu
      simp at hs

/-! ## Occurrences -/

theorem dropMark?_eq_none {mark t : Text} (h : ¬ mark <+: t) : dropMark? mark t = none := by
  rw [Option.eq_none_iff_forall_ne_some]
  intro rest hrest
  exact h ⟨rest, (dropMark?_eq_some.1 hrest).symm⟩

/-- A search fails exactly if the mark does not occur. -/
theorem cutAt?_eq_none {mark t : Text} : cutAt? mark t = none ↔ ¬ mark <:+: t := by
  constructor
  · rintro h ⟨before, after, rfl⟩
    -- The search passes or stops at each character before the occurrence.
    induction before with
    | nil =>
      have hdrop : dropMark? mark (mark ++ after) = some after := dropMark?_append mark after
      cases hmark : mark ++ after with
      | nil =>
        obtain ⟨rfl, rfl⟩ := List.append_eq_nil_iff.1 hmark
        simp [cutAt?, dropMark?] at h
      | cons c t =>
        rw [hmark] at hdrop
        simp [hmark, cutAt?, hdrop] at h
    | cons c before ih =>
      simp only [List.cons_append, cutAt?] at h
      split at h
      · simp at h
      · exact ih (by simpa using h)
  · intro h
    rw [Option.eq_none_iff_forall_ne_some]
    rintro ⟨before, after⟩ hcut
    exact h ⟨before, after, (eq_of_cutAt? hcut).symm⟩

/-- The two sides of the first occurrence of a mark: what stands before it is as short as it can be. -/
structure FirstCut (mark t before after : Text) : Prop where
  text_eq : t = before ++ mark ++ after
  shortest : ∀ before' after', t = before' ++ mark ++ after' → before.length ≤ before'.length

/-- In front of the first occurrence there is none. -/
theorem FirstCut.not_isInfix {mark t before after : Text} (h : FirstCut mark t before after)
    (hmark : mark ≠ []) : ¬ mark <:+: before := by
  rintro ⟨u, v, huv⟩
  have hle := h.shortest u (v ++ mark ++ after) (by rw [h.text_eq, ← huv]; simp)
  have hlength := congrArg List.length huv
  have hpos := List.length_pos_iff.2 hmark
  simp only [List.length_append] at hlength
  omega

/-- What follows another occurrence follows the first one too. -/
theorem FirstCut.suffix {mark t before after before' after' : Text}
    (h : FirstCut mark t before after) (h' : t = before' ++ mark ++ after') : after' <:+ after := by
  have hle := h.shortest before' after' h'
  have hlength := congrArg List.length (h.text_eq.symm.trans h')
  simp only [List.length_append] at hlength
  exact List.suffix_of_suffix_length_le ⟨_, h'.symm⟩ ⟨_, h.text_eq.symm⟩ (by omega)

theorem firstCut_of_cutAt? {mark t before after : Text} (h : cutAt? mark t = some (before, after)) :
    FirstCut mark t before after := by
  refine ⟨eq_of_cutAt? h, ?_⟩
  induction t generalizing before with
  | nil =>
    intro before' after' _
    have hnil : before ++ mark ++ after = [] := (eq_of_cutAt? h).symm
    simp [(List.append_eq_nil_iff.1 (List.append_eq_nil_iff.1 hnil).1).1]
  | cons c t ih =>
    intro before' after' ht
    simp only [cutAt?] at h
    split at h
    · cases h
      exact Nat.zero_le _
    · next hdrop =>
      obtain ⟨⟨b, a⟩, hcut, heq⟩ := Option.map_eq_some_iff.1 h
      cases heq
      cases before' with
      | nil =>
        rw [List.nil_append] at ht
        rw [dropMark?_eq_some.2 ht] at hdrop
        cases hdrop
      | cons c' before' =>
        exact Nat.succ_le_succ (ih hcut before' after' (List.cons.inj ht).2)

/-- A search cuts a text at the first occurrence of the mark. -/
theorem cutAt?_eq_some_iff {mark t before after : Text} :
    cutAt? mark t = some (before, after) ↔ FirstCut mark t before after := by
  refine ⟨firstCut_of_cutAt?, fun h => ?_⟩
  have hne : cutAt? mark t ≠ none := fun hnone =>
    cutAt?_eq_none.1 hnone ⟨before, after, h.text_eq.symm⟩
  obtain ⟨⟨before', after'⟩, hcut⟩ := Option.ne_none_iff_exists'.1 hne
  have h' : FirstCut mark t before' after' := firstCut_of_cutAt? hcut
  have hlength : before.length = before'.length :=
    Nat.le_antisymm (h.shortest _ _ h'.text_eq) (h'.shortest _ _ h.text_eq)
  have heq : before ++ (mark ++ after) = before' ++ (mark ++ after') := by
    rw [← List.append_assoc, ← List.append_assoc, ← h.text_eq, ← h'.text_eq]
  obtain ⟨rfl, htail⟩ := List.append_inj heq hlength
  rw [hcut, List.append_cancel_left htail]

theorem contains_iff {t mark : Text} : contains t mark = true ↔ mark <:+: t := by
  rw [contains, ← Option.ne_none_iff_isSome, ne_eq, cutAt?_eq_none, Classical.not_not]

theorem contains_eq_false_iff {t mark : Text} : contains t mark = false ↔ ¬ mark <:+: t := by
  rw [← Bool.not_eq_true, contains_iff]

/-- A search stops at a mark at the start. -/
theorem cutAt?_mark_append (mark t : Text) : cutAt? mark (mark ++ t) = some ([], t) := by
  have hdrop : dropMark? mark (mark ++ t) = some t := dropMark?_append mark t
  cases hmark : mark ++ t with
  | nil =>
    obtain ⟨rfl, rfl⟩ := List.append_eq_nil_iff.1 hmark
    rfl
  | cons c t' =>
    rw [hmark] at hdrop
    simp [cutAt?, hdrop]

/-- A cut with the text `s` in front of it. -/
def shift (s : Text) (cut : Option (Text × Text)) : Option (Text × Text) :=
  cut.map fun (before, after) => (s ++ before, after)

@[simp] theorem shift_none (s : Text) : shift s none = none := rfl

@[simp] theorem shift_some (s before after : Text) :
    shift s (some (before, after)) = some (s ++ before, after) := rfl

@[simp] theorem shift_nil (cut : Option (Text × Text)) : shift [] cut = cut := by
  cases cut <;> rfl

theorem shift_append (s t : Text) (cut : Option (Text × Text)) :
    shift (s ++ t) cut = shift s (shift t cut) := by
  cases cut with
  | none => rfl
  | some p => simp [shift]

/-- A search passes a character at which the mark does not start. -/
theorem cutAt?_cons_of_none {mark t : Text} {c : Char} (h : dropMark? mark (c :: t) = none) :
    cutAt? mark (c :: t) = shift [c] (cutAt? mark t) := by
  simp only [cutAt?, h]
  rfl

/-- A search passes over a part in which the mark starts nowhere. -/
theorem cutAt?_append_of_forall {mark s t : Text}
    (h : ∀ u v, s = u ++ v → v ≠ [] → dropMark? mark (v ++ t) = none) :
    cutAt? mark (s ++ t) = shift s (cutAt? mark t) := by
  induction s with
  | nil => simp
  | cons c s ih =>
    have htail : cutAt? mark (s ++ t) = shift s (cutAt? mark t) :=
      ih fun u v huv hv => h (c :: u) v (by simp [huv]) hv
    have hhead : dropMark? mark (c :: (s ++ t)) = none := h [] (c :: s) rfl (by simp)
    show cutAt? mark (c :: (s ++ t)) = shift ([c] ++ s) (cutAt? mark t)
    rw [cutAt?_cons_of_none hhead, htail, shift_append]

/-- A search passes over a part that does not have the first character of the mark. -/
theorem cutAt?_append_of_not_mem {a : Char} {mark s : Text} (h : a ∉ s) (t : Text) :
    cutAt? (a :: mark) (s ++ t) = shift s (cutAt? (a :: mark) t) := by
  apply cutAt?_append_of_forall
  rintro u (_ | ⟨c, v⟩) rfl hv
  · exact absurd rfl hv
  · have hac : a ≠ c := by
      rintro rfl
      simp at h
    simp [dropMark?, hac]

/-- A text is cut at the character that ends a part without it. -/
theorem cutAtChar?_append {c : Char} {s : Text} (h : c ∉ s) (t : Text) :
    cutAtChar? c (s ++ c :: t) = some (s, t) := by
  have hstop : cutAt? [c] (c :: t) = some ([], t) := cutAt?_mark_append [c] t
  rw [cutAtChar?, cutAt?_append_of_not_mem h, hstop, shift_some, List.append_nil]

/-- A text without separators is its only part. -/
theorem splitWhere_of_forall {p : Char → Bool} {s : Text} (h : ∀ c ∈ s, p c = false) :
    splitWhere p s = [s] := by
  induction s with
  | nil => rfl
  | cons c s ih =>
    rw [List.forall_mem_cons] at h
    rw [splitWhere, h.1, if_neg Bool.false_ne_true, ih h.2]

/-- A search that succeeds is not changed by what is appended. -/
theorem cutAt?_append_of_some {m s before after : Text} (h : cutAt? m s = some (before, after))
    (t : Text) : cutAt? m (s ++ t) = some (before, after ++ t) := by
  induction s generalizing before with
  | nil =>
    obtain ⟨rest, hrest, heq⟩ := Option.map_eq_some_iff.1 h
    cases heq
    have hm : [] = m ++ after := dropMark?_eq_some.1 hrest
    obtain ⟨rfl, rfl⟩ := List.append_eq_nil_iff.1 hm.symm
    exact cutAt?_mark_append [] t
  | cons c s ih =>
    cases hdrop : dropMark? m (c :: s) with
    | some rest =>
      have htext : c :: s = m ++ rest := dropMark?_eq_some.1 hdrop
      rw [htext, cutAt?_mark_append] at h
      cases h
      rw [htext, List.append_assoc, cutAt?_mark_append]
    | none =>
      rw [cutAt?_cons_of_none hdrop] at h
      obtain ⟨⟨before', after'⟩, hcut, heq⟩ := Option.map_eq_some_iff.1 h
      cases heq
      -- The mark is shorter than the text, so it cannot begin here and end behind the text.
      have hlength := length_of_cutAt? hcut
      have hdrop' : dropMark? m (c :: (s ++ t)) = none := by
        refine dropMark?_eq_none fun hpre => ?_
        have hle : m.length ≤ (c :: s).length := by
          rw [List.length_cons]
          omega
        obtain ⟨rest, hrest⟩ :=
          List.prefix_of_prefix_length_le hpre (List.prefix_append (c :: s) t) hle
        rw [dropMark?_eq_some.2 hrest.symm] at hdrop
        cases hdrop
      rw [List.cons_append, cutAt?_cons_of_none hdrop', ih hcut]
      rfl

/-- A text that does not have the separator occurs on one side of it. -/
theorem infix_or_infix_of_not_mem {m s t : Text} {z : Char} (hz : z ∉ m) (h : m <:+: s ++ z :: t) :
    m <:+: s ∨ m <:+: t := by
  rcases List.infix_append_iff.1 h with h | h | ⟨m₁, m₂, rfl, h₁, h₂⟩
  · exact .inl h
  · rcases List.infix_cons_iff.1 h with hpre | h
    · cases m with
      | nil => exact .inl List.nil_infix
      | cons a m =>
        rw [(List.cons_prefix_cons.1 hpre).1] at hz
        exact absurd List.mem_cons_self hz
    · exact .inr h
  · cases m₂ with
    | nil =>
      rw [List.append_nil]
      exact .inl h₁.isInfix
    | cons a m₂ =>
      rw [(List.cons_prefix_cons.1 h₂).1] at hz
      exact absurd (List.mem_append_right m₁ List.mem_cons_self) hz

/-- Two characters that stand side by side in a concatenation stand so in one of its parts, or one of
them ends the first part and the other one begins the second. -/
theorem pair_infix_append {a z : Char} {s t : Text} (h : [a, z] <:+: s ++ t) :
    [a, z] <:+: s ∨ [a, z] <:+: t ∨ a ∈ s ∧ t.head? = some z := by
  rcases List.infix_append_iff.1 h with h | h | ⟨s₁, s₂, heq, h₁, h₂⟩
  · exact .inl h
  · exact .inr (.inl h)
  · rcases s₁ with _ | ⟨b, _ | ⟨c, s₁⟩⟩
    · exact .inr (.inl (heq ▸ h₂.isInfix))
    · obtain ⟨rfl, rfl⟩ := List.cons.inj heq
      obtain ⟨rest, rfl⟩ := h₂
      exact .inr (.inr ⟨h₁.subset List.mem_cons_self, rfl⟩)
    · obtain ⟨rfl, hrest⟩ := List.cons.inj heq
      obtain ⟨rfl, hnil⟩ := List.cons.inj hrest
      obtain ⟨rfl, rfl⟩ := List.append_eq_nil_iff.1 hnil.symm
      exact .inl h₁.isInfix

/-- Two characters do not come to stand side by side in front of a text that does not begin with the
second one. -/
theorem not_pair_append {a z : Char} {s t : Text} (hs : ¬ [a, z] <:+: s) (ht : ¬ [a, z] <:+: t)
    (hhead : t.head? ≠ some z) : ¬ [a, z] <:+: s ++ t := by
  intro h
  rcases pair_infix_append h with h | h | ⟨-, h⟩
  · exact hs h
  · exact ht h
  · exact hhead h

end PubList.Text
