import PubList.Proofs.Inert

/-!
# Rendering that takes text away

Values that are shorter than their placeholders, conditionals, and blocks without a text make a text
shorter, or leave it as it is if there is none of them. So if the text stays, nothing of the kind has been
read in it (`substitute_eq_self_or`, `resolve_eq_self_or`, `length_expandBlocks_lt`). A rendering that
leaves a text as it is has then found nothing in any of its passes (`passes_of_renderEntry_eq_self`,
`of_expandBlocks_substitute_eq_self`).
-/

namespace PubList.Template

open Text (IsWord isWordChar cutAt? dropMark? shift)

/-! ## Substitution -/

section Substitution

theorem length_lt_of_wordBeforeAt? {t name : Text} (h : wordBeforeAt? t = some name) :
    name.length < t.length := by
  obtain ⟨-, rest, rfl⟩ := wordBeforeAt?_eq_some h
  rw [List.length_append, List.length_cons]
  omega

/-- Every value is shorter than its placeholder. -/
def Short (lookup : Text → Option Text) : Prop :=
  ∀ name v, lookup name = some v → v.length < (placeholder name).length

theorem short_of_eq_nil {lookup : Text → Option Text}
    (hempty : ∀ name v, lookup name = some v → v = []) : Short lookup := by
  intro name v hv
  rw [hempty name v hv]
  exact Nat.zero_lt_succ _

variable {lookup : Text → Option Text} (hshort : Short lookup)

include hshort

/-- A known placeholder at the start makes the text shorter. -/
theorem length_append_substitute_drop_lt {t name v : Text} (hname : wordBeforeAt? t = some name)
    (hv : lookup name = some v)
    (hrest : (substitute lookup (t.drop (name.length + 1))).length ≤
      (t.drop (name.length + 1)).length) :
    (v ++ substitute lookup (t.drop (name.length + 1))).length < ('@' :: t).length := by
  have hvalue := hshort name v hv
  have hlength := length_lt_of_wordBeforeAt? hname
  rw [List.length_drop] at hrest
  rw [placeholder, List.cons_append, List.length_cons, List.length_append, List.length_singleton] at hvalue
  rw [List.length_append, List.length_cons]
  omega

theorem length_substitute_le (t : Text) : (substitute lookup t).length ≤ t.length := by
  fun_induction substitute lookup t with
  | case1 => exact Nat.le_refl _
  | case2 t name hname v hv ih =>
    exact Nat.le_of_lt (length_append_substitute_drop_lt hshort hname hv ih)
  | case3 t name hname hv ih | case4 t hname ih | case5 a t ha ih =>
    rw [List.length_cons, List.length_cons]
    omega

/-- A known placeholder makes the text shorter. -/
theorem length_substitute_lt {t u s name v : Text} (ht : t = u ++ '@' :: s)
    (hname : wordBeforeAt? s = some name) (hv : lookup name = some v) :
    (substitute lookup t).length < t.length := by
  fun_induction substitute lookup t generalizing u with
  | case1 => simp at ht
  | case2 t name' hname' v' hv' ih =>
    exact length_append_substitute_drop_lt hshort hname' hv' (length_substitute_le hshort _)
  | case3 t name' hname' hv' ih =>
    rw [List.length_cons, List.length_cons]
    cases u with
    | nil =>
      rw [(List.cons.inj ht).2, hname] at hname'
      cases hname'
      cases hv.symm.trans hv'
    | cons b u =>
      have := ih (List.cons.inj ht).2
      omega
  | case4 t hname' ih =>
    rw [List.length_cons, List.length_cons]
    cases u with
    | nil =>
      rw [(List.cons.inj ht).2, hname] at hname'
      cases hname'
    | cons b u =>
      have := ih (List.cons.inj ht).2
      omega
  | case5 a t ha ih =>
    rw [List.length_cons, List.length_cons]
    cases u with
    | nil => exact absurd (List.cons.inj ht).1 ha
    | cons b u =>
      have := ih (List.cons.inj ht).2
      omega

/-- Either nothing known is found, or the text gets shorter. -/
theorem substitute_eq_self_or (t : Text) :
    substitute lookup t = t ∨ (substitute lookup t).length < t.length := by
  by_cases hclosed : ∀ u s, t = u ++ '@' :: s → Closed lookup s
  · exact .inl (substitute_eq_self hclosed)
  · right
    simp only [Closed, Classical.not_forall] at hclosed
    obtain ⟨u, s, hs, name, hname, hv⟩ := hclosed
    obtain ⟨v, hv⟩ := Option.ne_none_iff_exists'.1 hv
    exact length_substitute_lt hshort hs hname hv

/-- If the text stays, no placeholder in it is known. -/
theorem eq_none_of_substitute_eq_self {t u s name : Text} (h : substitute lookup t = t)
    (ht : t = u ++ '@' :: s) (hname : wordBeforeAt? s = some name) : lookup name = none := by
  rw [Option.eq_none_iff_forall_ne_some]
  intro v hv
  have hlt := length_substitute_lt hshort ht hname hv
  rw [h] at hlt
  exact Nat.lt_irrefl _ hlt

end Substitution

/-! ## Resolution -/

theorem length_branch_lt (c : Conditional) (e : Entry) : (c.branch e).length < c.text.length := by
  have hbody := (branch_infix_body c e).length_le
  simp [Conditional.text, Conditional.closer]
  omega

theorem length_resolveLevels_le (e : Entry) (levels : Nat) (t : Text) :
    (resolveLevels e levels t).length ≤ t.length := by
  induction levels, t using resolveLevels.induct e with
  | case1 levels => exact Nat.le_of_eq (by rw [resolveLevels_nil])
  | case2 levels t hread ih =>
    rw [resolveLevels_of_read?_eq_none e levels hread]
    simpa using ih
  | case3 levels t c rest hread ihBranch ihRest =>
    have hlength := congrArg List.length (Conditional.text_append_of_read? hread)
    rw [List.length_append, List.length_append] at hlength
    cases levels with
    | zero =>
      rw [resolveLevels_zero_of_read? e hread]
      simp [Conditional.opener] at hlength ⊢
      omega
    | succ inner =>
      have hbranch := length_branch_lt c e
      rw [resolveLevels_succ_of_read? e inner hread]
      simp [Conditional.opener] at hlength ihBranch ⊢
      omega
  | case4 levels a t hstart ih =>
    rw [resolveLevels_cons e levels hstart]
    simpa using ih

/-- A conditional that is read makes the text shorter. -/
theorem length_resolveLevels_lt (e : Entry) {levels : Nat} (hlevels : 0 < levels) {t u v rest : Text}
    {c : Conditional} (ht : t = u ++ '@' :: '?' :: v)
    (hread : Conditional.read? v = some (c, rest)) :
    (resolveLevels e levels t).length < t.length := by
  induction levels, t using resolveLevels.induct e generalizing u with
  | case1 => simp at ht
  | case2 levels t hnone ih =>
    rw [resolveLevels_of_read?_eq_none e levels hnone]
    cases u with
    | nil =>
      have htv : t = v := by simpa using ht
      rw [htv, hread] at hnone
      cases hnone
    | cons a u =>
      obtain ⟨-, ht⟩ := List.cons.inj ht
      cases u with
      | nil => simp at ht
      | cons b u => simpa using ih hlevels (List.cons.inj ht).2
  | case3 levels t c' rest' hread' ihBranch ihRest =>
    obtain ⟨inner, rfl⟩ := Nat.exists_eq_succ_of_ne_zero (Nat.pos_iff_ne_zero.1 hlevels)
    have hlength := congrArg List.length (Conditional.text_append_of_read? hread')
    have hbranch := length_branch_lt c' e
    have hinner := length_resolveLevels_le e inner (c'.branch e)
    have hrest := length_resolveLevels_le e (inner + 1) rest'
    rw [resolveLevels_succ_of_read? e inner hread']
    simp [Conditional.opener] at hlength ⊢
    omega
  | case4 levels a t hstart ih =>
    rw [resolveLevels_cons e levels hstart]
    cases u with
    | nil =>
      obtain ⟨rfl, hopen⟩ := List.cons.inj ht
      exact absurd hopen (hstart v rfl)
    | cons b u => simpa using ih hlevels (List.cons.inj ht).2

theorem resolve_eq_self_or (e : Entry) (t : Text) :
    (Unread t ∧ resolve e t = t) ∨ (resolve e t).length < t.length := by
  by_cases hunread : Unread t
  · exact .inl ⟨hunread, resolveLevels_eq_self e maxDepth hunread⟩
  · right
    simp only [Unread, Classical.not_forall] at hunread
    obtain ⟨u, v, ht, hread⟩ := hunread
    obtain ⟨⟨c, rest⟩, hread⟩ := Option.ne_none_iff_exists'.1 hread
    exact length_resolveLevels_lt e (by decide) ht hread

/-! ## Blocks and entries -/

section Blocks

variable {kind : BlockKind}

theorem length_expandBlocks_le (kind : BlockKind) (t : Text) :
    (expandBlocks kind (fun _ => []) t).length ≤ t.length := by
  fun_induction expandBlocks kind (fun _ => []) t with
  | case1 t hfind => exact Nat.le_refl _
  | case2 t b hfind ih =>
    have hlength := congrArg List.length (eq_text_of_findBlock? hfind)
    simp only [Block.text, List.length_append] at hlength
    simp only [List.length_append, List.length_nil]
    omega

/-- A block whose text is left out makes the text shorter. -/
theorem length_expandBlocks_lt {t : Text} (h : findBlock? kind t ≠ none) :
    (expandBlocks kind (fun _ => []) t).length < t.length := by
  obtain ⟨b, hfind⟩ := Option.ne_none_iff_exists'.1 h
  have hlength := congrArg List.length (eq_text_of_findBlock? hfind)
  have hrest := length_expandBlocks_le kind b.after
  rw [expandBlocks_of_some _ hfind]
  simp only [Block.text, List.length_append, kind.opener_length] at hlength
  simp only [List.length_append, List.length_nil]
  omega

/-- If a text stays whose placeholders are filled in and whose blocks are left out, it has no placeholder
that is known and no block. -/
theorem of_expandBlocks_substitute_eq_self {lookup : Text → Option Text} (hshort : Short lookup) {t : Text}
    (h : expandBlocks kind (fun _ => []) (substitute lookup t) = t) :
    substitute lookup t = t ∧ findBlock? kind t = none := by
  have hlength := congrArg List.length h
  rcases substitute_eq_self_or hshort t with hfilled | hfilled
  · refine ⟨hfilled, Classical.byContradiction fun hfind => ?_⟩
    have hlt := length_expandBlocks_lt hfind
    rw [hfilled] at hlength
    omega
  · have hle := length_expandBlocks_le kind (substitute lookup t)
    omega

end Blocks

/-- If an entry whose values are short leaves a text as it is, none of the three passes finds anything in
the text. -/
theorem passes_of_renderEntry_eq_self {e : Entry} (hshort : Short e.get?) {t : Text}
    (h : renderEntry e t = t) :
    substitute (entryKeyValue e) t = t ∧ Unread t ∧ substitute e.get? t = t := by
  have hkey : Short (entryKeyValue e) := by
    intro name v hv
    rw [entryKeyValue, Option.ite_none_right_eq_some] at hv
    obtain ⟨rfl, hv⟩ := hv
    cases hv
    exact Nat.lt_trans (hshort Entry.keyName e.key e.get?_key) (by decide)
  have hlength := congrArg List.length h
  have hput := length_substitute_le hshort (resolve e (substitute (entryKeyValue e) t))
  have hresolve : (resolve e (substitute (entryKeyValue e) t)).length ≤ _ :=
    length_resolveLevels_le e maxDepth _
  rw [renderEntry] at h hlength
  -- None of the three passes can have made the text shorter.
  rcases substitute_eq_self_or hkey t with hkeyed | hkeyed
  · rw [hkeyed] at h hlength hput
    rcases resolve_eq_self_or e t with ⟨hunread, hresolved⟩ | hresolved
    · rw [hresolved] at h
      exact ⟨hkeyed, hunread, h⟩
    · omega
  · omega

/-- If an entry that has nothing to put in leaves a text as it is, no conditional is read in it, and
no placeholder that the entry knows. -/
theorem of_renderEntry_eq_self {e : Entry} (hempty : ∀ name v, e.get? name = some v → v = [])
    {t : Text} (h : renderEntry e t = t) :
    Unread t ∧ ∀ u s name, t = u ++ '@' :: s → wordBeforeAt? s = some name → e.get? name = none := by
  have hshort := short_of_eq_nil hempty
  obtain ⟨-, hunread, hfilled⟩ := passes_of_renderEntry_eq_self hshort h
  exact ⟨hunread, fun u s name ht hname => eq_none_of_substitute_eq_self hshort hfilled ht hname⟩

end PubList.Template
