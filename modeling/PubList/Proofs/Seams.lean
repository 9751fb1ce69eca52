import Mathlib.Logic.Function.Iterate
import PubList.Proofs.LeftmostShortest
import PubList.Proofs.Shrinking

/-!
# The seams of a resolved template

The resolution goes over a template once. It takes out of the template the pieces that it keeps and
puts them side by side (`Keeps`), and never looks at what comes together where two of them meet. No
piece holds a block. So a block in the result lies across a seam: a part of another block stood in the
template between its head and its closing mark (`resolve_crossed`).

How far one pass is from a loop that goes on until no block is left is a matter of counting. The
branch and the rest of a block have fewer opening marks than the block, also together with the `@`
that a piece in front of them can end with (`occurrences_branch_lt`). So every further pass that finds
a block uses up an opening mark of the template (`resolve_seams`).
-/

namespace PubList.Template

open Text (occurrences FirstCut cutAt?)

/-! ## Texts without blocks -/

/-- No block starts anywhere in the text. -/
def BlockFree (t : Text) : Prop := ∀ w, w <:+ t → ¬ StartsBlock w

instance (t : Text) : Decidable (BlockFree t) :=
  inferInstanceAs (Decidable (∀ w, w <:+ t → ¬ StartsBlock w))

theorem blockFree_iff_unread {t : Text} : BlockFree t ↔ Unread t := by
  constructor
  · intro h u v ht
    have hstart := h ('@' :: '?' :: v) ⟨u, ht.symm⟩
    rw [startsBlock_iff] at hstart
    simpa using hstart
  · rintro h w ⟨u, hu⟩ hstart
    obtain ⟨v, rfl, hread⟩ := startsBlock_iff.1 hstart
    rw [h u v hu.symm] at hread
    cases hread

/-- A block is not changed by what is appended. -/
theorem StartsBlock.append {t : Text} (h : StartsBlock t) (u : Text) : StartsBlock (t ++ u) := by
  obtain ⟨c, body, rest, hwf, behind, rfl, hcut⟩ := h
  have hcut' : FirstCut (Conditional.closer c.field) (behind ++ u) body (rest ++ u) :=
    Text.cutAt?_eq_some_iff.1 (Text.cutAt?_append_of_some (Text.cutAt?_eq_some_iff.2 hcut) u)
  exact ⟨c, body, rest ++ u, hwf, behind ++ u, by simp, hcut'⟩

/-- In front of the first block there is none. -/
theorem blockFree_of_first {before v : Text}
    (h : ∀ w, w <:+ before ++ v → v.length < w.length → ¬ StartsBlock w) : BlockFree before := by
  rintro w ⟨u, rfl⟩ hstart
  cases w with
  | nil =>
    obtain ⟨t, ht, -⟩ := startsBlock_iff.1 hstart
    cases ht
  | cons a w =>
    refine h (a :: w ++ v) ⟨u, by simp⟩ ?_ (hstart.append v)
    rw [List.length_append, List.length_cons]
    omega

/-- Where a block starts, there is a first one. -/
theorem exists_first_block {t : Text} (h : ¬ BlockFree t) :
    ∃ before v, t = before ++ v ∧ StartsBlock v ∧
      ∀ w, w <:+ t → v.length < w.length → ¬ StartsBlock w := by
  induction t with
  | nil =>
    refine absurd (fun w hw hstart => ?_) h
    obtain ⟨t, rfl, -⟩ := startsBlock_iff.1 hstart
    have := List.suffix_nil.1 hw
    cases this
  | cons a t ih =>
    by_cases hstart : StartsBlock (a :: t)
    · exact ⟨[], a :: t, rfl, hstart, fun w hw hlt => absurd hw.length_le (Nat.not_le.2 hlt)⟩
    · have htail : ¬ BlockFree t := fun hfree => h fun w hw => by
        rcases List.suffix_cons_iff.1 hw with rfl | hw
        · exact hstart
        · exact hfree w hw
      obtain ⟨before, v, rfl, hv, hfirst⟩ := ih htail
      refine ⟨a :: before, v, rfl, hv, fun w hw hlt => ?_⟩
      rcases List.suffix_cons_iff.1 hw with rfl | hw
      · exact hstart
      · exact hfirst w hw hlt

/-! ## The pieces that are kept -/

/-- The pieces of a text that its resolution keeps, from left to right: a text without blocks as a
whole; otherwise what stands before the first block, the pieces of the branch that the entry chooses,
and the pieces of what follows the block. -/
inductive Keeps (e : Entry) : Text → List Text → Prop
  | whole {t : Text} (free : BlockFree t) : Keeps e t [t]
  | block {before v body rest branch : Text} {c : Condition} {inner outer : List Text}
    (first : ∀ w, w <:+ before ++ v → v.length < w.length → ¬ StartsBlock w)
    (block : IsBlock v c body rest) (chosen : Chooses e c body branch)
    (branchPieces : Keeps e branch inner) (restPieces : Keeps e rest outer) :
    Keeps e (before ++ v) (before :: (inner ++ outer))

section Keeps

variable {e : Entry} {t v body rest branch : Text} {c : Condition} {pieces : List Text}

theorem branch_infix_of_chooses (h : Chooses e c body branch) : branch <:+: body := by
  rw [chooses_iff.1 h]
  exact branch_infix_body (c.around body) e

theorem IsBlock.body_infix (h : IsBlock v c body rest) : body <:+: v ∧ rest <:+: v := by
  have htext : v = placeholder c.question ++ body ++ placeholder (';' :: c.field) ++ rest := by
    rw [h.text_eq, Condition.text_around]
  exact ⟨⟨placeholder c.question, placeholder (';' :: c.field) ++ rest, by rw [htext]; simp⟩,
    ⟨_, [], by rw [htext, List.append_nil]⟩⟩

theorem IsBlock.length_lt (h : IsBlock v c body rest) :
    body.length < v.length ∧ rest.length < v.length := by
  have hlength := congrArg List.length h.text_eq
  simp only [Condition.text_around, placeholder, List.length_append, List.length_cons,
    List.length_nil] at hlength
  omega

theorem exists_keeps (e : Entry) (t : Text) : ∃ pieces, Keeps e t pieces := by
  by_cases hfree : BlockFree t
  · exact ⟨[t], .whole hfree⟩
  · obtain ⟨before, v, ht, ⟨c, body, rest, hblock⟩, hfirst⟩ := exists_first_block hfree
    have hchosen : Chooses e c body ((c.around body).branch e) := chooses_iff.2 rfl
    have hbranch := (branch_infix_of_chooses hchosen).length_le
    have hv : v.length ≤ t.length := by simp [ht]
    obtain ⟨hbody, hrest⟩ := hblock.length_lt
    obtain ⟨inner, hinner⟩ := exists_keeps e ((c.around body).branch e)
    obtain ⟨outer, houter⟩ := exists_keeps e rest
    rw [ht] at hfirst ⊢
    exact ⟨_, .block hfirst hblock hchosen hinner houter⟩
termination_by t.length

/-- A piece is a part of the text, and no block starts in it. -/
theorem Keeps.mem (h : Keeps e t pieces) : ∀ p ∈ pieces, p <:+: t ∧ BlockFree p := by
  induction h with
  | whole free => simpa using free
  | @block before v body rest branch c inner outer first block chosen _ _ ihbranch ihrest =>
    have hv : v <:+: before ++ v := (List.suffix_append before v).isInfix
    intro p hp
    rcases List.mem_cons.1 hp with rfl | hp
    · exact ⟨(List.prefix_append p v).isInfix, blockFree_of_first first⟩
    rcases List.mem_append.1 hp with hp | hp
    · obtain ⟨hpart, hfree⟩ := ihbranch p hp
      exact ⟨((hpart.trans (branch_infix_of_chooses chosen)).trans block.body_infix.1).trans hv,
        hfree⟩
    · obtain ⟨hpart, hfree⟩ := ihrest p hp
      exact ⟨(hpart.trans block.body_infix.2).trans hv, hfree⟩

/-! ## Opening marks -/

theorem occurrences_opener_cons_le (a : Char) (t : Text) :
    occurrences Conditional.opener (a :: t) ≤ occurrences Conditional.opener ('@' :: t) := by
  by_cases ha : a = '@'
  · exact Nat.le_of_eq (by rw [ha])
  · have hpre : ¬ Conditional.opener <+: a :: t := fun h => ha (List.cons_prefix_cons.1 h).1.symm
    rw [occurrences, if_neg hpre]
    exact Text.occurrences_cons_le _ '@' t

/-- Where two texts meet, one opening mark can come together, if the first one ends with `@`. -/
theorem occurrences_opener_append_le (s t : Text) :
    occurrences Conditional.opener (s ++ t) ≤
      occurrences Conditional.opener s + occurrences Conditional.opener ('@' :: t) := by
  induction s with
  | nil => exact Nat.le_add_left_of_le (Text.occurrences_cons_le _ '@' t)
  | cons a s ih =>
    cases s with
    | nil => exact Nat.le_add_left_of_le (occurrences_opener_cons_le a t)
    | cons b s =>
      -- The mark has two characters: whether it begins with `a` is settled by `a` and `b`.
      have hpre : Conditional.opener <+: a :: (b :: s ++ t) ↔ Conditional.opener <+: a :: b :: s := by
        simp [Conditional.opener, List.cons_prefix_cons]
      rw [List.cons_append, occurrences, occurrences.eq_2 _ a (b :: s)]
      simp only [hpre]
      omega

/-- The branch and the rest of a block have fewer opening marks than the block, even if an `@` comes
to stand in front of each of them. -/
theorem occurrences_branch_lt (hblock : IsBlock v c body rest) (hchosen : Chooses e c body branch) :
    occurrences Conditional.opener ('@' :: branch) + occurrences Conditional.opener ('@' :: rest) <
      occurrences Conditional.opener v := by
  -- In front of the branch, and in front of the rest, there is the `@` of a mark.
  have hbranch : '@' :: branch <:+: '@' :: body := by
    rcases hchosen with ⟨yes, no, hcut, rfl⟩ | ⟨-, rfl⟩
    · have hbody : '@' :: body = '@' :: yes ++ (('@' :: ':' :: c.field) ++ '@' :: no) := by
        rw [hcut.text_eq]
        simp [Conditional.separator]
      rw [hbody]
      split
      · exact (List.prefix_append _ _).isInfix
      · exact ((List.suffix_append _ _).trans (List.suffix_append _ _)).isInfix
    · split
      · exact List.infix_rfl
      · exact ⟨[], body, rfl⟩
  have hv : v = Conditional.opener ++ (c.field ++ c.testText) ++
      ('@' :: body ++ (('@' :: ';' :: c.field) ++ '@' :: rest)) := by
    obtain ⟨-, behind, hv, hcut⟩ := hblock
    rw [hv, hcut.text_eq]
    simp [Conditional.closer]
  have hopener : 1 ≤ occurrences Conditional.opener (Conditional.opener ++ (c.field ++ c.testText)) :=
    Text.occurrences_le_of_infix Conditional.opener (s := Conditional.opener)
      (List.prefix_append _ _).isInfix
  have hinside := Text.occurrences_le_of_infix Conditional.opener hbranch
  have h₁ := Text.occurrences_add_le Conditional.opener
    (Conditional.opener ++ (c.field ++ c.testText))
    ('@' :: body ++ (('@' :: ';' :: c.field) ++ '@' :: rest))
  have h₂ := Text.occurrences_add_le Conditional.opener ('@' :: body)
    (('@' :: ';' :: c.field) ++ '@' :: rest)
  have h₃ := Text.occurrences_le_of_infix Conditional.opener
    (List.suffix_append ('@' :: ';' :: c.field) ('@' :: rest)).isInfix
  rw [hv]
  omega

/-- What the resolution keeps has no more opening marks than the text. -/
theorem Keeps.occurrences_at_le (h : Keeps e t pieces) :
    occurrences Conditional.opener ('@' :: pieces.flatten) ≤
      occurrences Conditional.opener ('@' :: t) := by
  induction h with
  | whole free => simp
  | @block before v body rest branch c inner outer first block chosen _ _ ihbranch ihrest =>
    have hlt := occurrences_branch_lt block chosen
    have h₁ := occurrences_opener_append_le ('@' :: before) (inner.flatten ++ outer.flatten)
    have h₂ := occurrences_opener_append_le ('@' :: inner.flatten) outer.flatten
    have h₃ := Text.occurrences_add_le Conditional.opener ('@' :: before) v
    rw [List.cons_append] at h₁ h₂ h₃
    rw [List.flatten_cons, List.flatten_append]
    omega

/-- If there is a block, what the resolution keeps has fewer opening marks than the text. -/
theorem Keeps.occurrences_lt (h : Keeps e t pieces) (ht : ¬ BlockFree t) :
    occurrences Conditional.opener pieces.flatten < occurrences Conditional.opener t := by
  cases h with
  | whole free => exact absurd free ht
  | @block before v body rest branch c inner outer first block chosen hinner houter =>
    have hlt := occurrences_branch_lt block chosen
    have hbranch := hinner.occurrences_at_le
    have hrest := houter.occurrences_at_le
    have h₁ := occurrences_opener_append_le before (inner.flatten ++ outer.flatten)
    have h₂ := occurrences_opener_append_le ('@' :: inner.flatten) outer.flatten
    have h₃ := Text.occurrences_add_le Conditional.opener before v
    rw [List.cons_append] at h₂
    rw [List.flatten_cons, List.flatten_append]
    omega

/-! ## One pass -/

/-- The resolution puts the pieces that it keeps side by side. -/
theorem resolveLevels_of_keeps (h : Keeps e t pieces) {levels : Nat}
    (hlevels : occurrences Conditional.opener t ≤ levels) :
    resolveLevels e levels t = pieces.flatten := by
  induction h generalizing levels with
  | @whole t free =>
    have hstay : resolveLevels e levels (t ++ []) = t ++ resolveLevels e levels [] :=
      resolveLevels_append_of_first e levels fun w hw _ => free w (by rwa [List.append_nil] at hw)
    simpa using hstay
  | @block before v body rest branch c inner outer first block chosen _ _ ihbranch ihrest =>
    obtain ⟨t, rfl, hread⟩ := block.exists_read
    have hlt := occurrences_branch_lt block chosen
    have hbranch := Text.occurrences_cons_le Conditional.opener '@' branch
    have hrest := Text.occurrences_cons_le Conditional.opener '@' rest
    have hv := Text.occurrences_le_of_infix Conditional.opener
      (List.suffix_append before ('@' :: '?' :: t)).isInfix
    -- The block uses up a level, and its branch has an opening mark less.
    obtain ⟨levels, rfl⟩ := Nat.exists_eq_succ_of_ne_zero (show levels ≠ 0 by omega)
    rw [resolveLevels_append_of_first e _ first, resolveLevels_succ_of_read? e levels hread,
      ← chooses_iff.1 chosen, ihbranch (by omega), ihrest (by omega), List.flatten_cons,
      List.flatten_append]

theorem resolve_of_keeps (h : Keeps e t pieces)
    (ht : occurrences Conditional.opener t < maxDepth) : resolve e t = pieces.flatten :=
  resolveLevels_of_keeps h (Nat.le_of_lt ht)

end Keeps

/-- The resolution leaves a text exactly if there is no block in it. -/
theorem resolve_eq_self_iff (e : Entry) (t : Text) : resolve e t = t ↔ BlockFree t := by
  constructor
  · intro h
    rcases resolve_eq_self_or e t with ⟨hunread, -⟩ | hlt
    · exact blockFree_iff_unread.2 hunread
    · rw [h] at hlt
      exact absurd hlt (Nat.lt_irrefl _)
  · exact resolve_eq_self_of_no_block e

/-! ## Several passes -/

/-- A pass that finds a block uses up an opening mark. -/
theorem occurrences_resolve_lt (e : Entry) {t : Text}
    (ht : occurrences Conditional.opener t < maxDepth) (hblock : ¬ BlockFree t) :
    occurrences Conditional.opener (resolve e t) < occurrences Conditional.opener t := by
  obtain ⟨pieces, hkeeps⟩ := exists_keeps e t
  rw [resolve_of_keeps hkeeps ht]
  exact hkeeps.occurrences_lt hblock

theorem blockFree_of_occurrences_eq_zero {t : Text}
    (h : occurrences Conditional.opener t = 0) : BlockFree t := by
  refine Classical.byContradiction fun hblock => ?_
  obtain ⟨before, v, rfl, ⟨c, body, rest, hv⟩, -⟩ := exists_first_block hblock
  have hchosen : Chooses ⟨[], []⟩ c body ((c.around body).branch ⟨[], []⟩) := chooses_iff.2 rfl
  have hlt := occurrences_branch_lt hv hchosen
  have hle := Text.occurrences_le_of_infix Conditional.opener (List.suffix_append before v).isInfix
  omega

/-- As many passes as a text has opening marks leave no block. -/
theorem blockFree_iterate (e : Entry) {n : Nat} {t : Text}
    (ht : occurrences Conditional.opener t < maxDepth)
    (hn : occurrences Conditional.opener t ≤ n) : BlockFree ((resolve e)^[n] t) := by
  induction n generalizing t with
  | zero => exact blockFree_of_occurrences_eq_zero (Nat.le_zero.1 hn)
  | succ n ih =>
    by_cases hfree : BlockFree t
    · have hfix : resolve e t = t := (resolve_eq_self_iff e t).2 hfree
      rwa [Function.iterate_fixed hfix]
    · have hlt := occurrences_resolve_lt e ht hfree
      rw [Function.iterate_succ_apply]
      exact ih (by omega) (by omega)

/-- **What one pass leaves over.** Let a text have fewer than `maxDepth` opening marks. Its resolution
is made of the pieces of the text that are kept, and no block starts in any of them: a block in the
result lies across a seam between two pieces. A second pass changes the result exactly if there is
such a block, and as many passes as the text has opening marks leave no block at all. -/
theorem resolve_seams (e : Entry) {t : Text} (ht : occurrences Conditional.opener t < maxDepth) :
    (∃ pieces, Keeps e t pieces ∧ resolve e t = pieces.flatten ∧
        ∀ p ∈ pieces, p <:+: t ∧ BlockFree p) ∧
      (resolve e (resolve e t) = resolve e t ↔ BlockFree (resolve e t)) ∧
      BlockFree ((resolve e)^[occurrences Conditional.opener t] t) := by
  obtain ⟨pieces, hkeeps⟩ := exists_keeps e t
  exact ⟨⟨pieces, hkeeps, resolve_of_keeps hkeeps ht, hkeeps.mem⟩,
    resolve_eq_self_iff e (resolve e t), blockFree_iterate e ht (Nat.le_refl _)⟩

/-- Two blocks one after the other, the first of which has another one in its branch: two opening
marks of three stay in front of the third one. -/
theorem resolve_seams_unclosed :
    let e : Entry := ⟨"k".toList, [("year".toList, "2021".toList)]⟩
    let t : Text := "@?year@in @?doi@D@;doi@@;year@ @?year~@year@ @?url@".toList
    occurrences Conditional.opener t = 4 ∧
      (∃ pieces, Keeps e t pieces ∧ resolve e t = pieces.flatten ∧
        ∀ p ∈ pieces, p <:+: t ∧ BlockFree p) ∧
      (resolve e (resolve e t) = resolve e t ↔ BlockFree (resolve e t)) ∧
      BlockFree ((resolve e)^[4] t) := by
  intro e t
  have hcount : occurrences Conditional.opener t = 4 := by decide
  have hseams := resolve_seams e (t := t) (by rw [hcount]; decide)
  rw [hcount] at hseams
  exact ⟨hcount, hseams⟩

/-- A block at the start of a text, with no other one in its branch and behind it. -/
theorem Keeps.of_start {e : Entry} {v body rest branch : Text} {c : Condition}
    (hblock : IsBlock v c body rest) (hchosen : Chooses e c body branch) (hbranch : BlockFree branch)
    (hrest : BlockFree rest) : Keeps e v [[], branch, rest] := by
  have hfirst : ∀ w, w <:+ [] ++ v → v.length < w.length → ¬ StartsBlock w :=
    fun _ hw hlt => absurd hw.length_le (Nat.not_le.2 hlt)
  exact .block hfirst hblock hchosen (.whole hbranch) (.whole hrest)

/-- A block that begins in the branch of another one and ends behind it is none while the other one is
resolved. It comes together across the seam, and a second pass finds it. -/
theorem resolve_crossed :
    let e : Entry := ⟨"k".toList, [("year".toList, "2021".toList), ("month".toList, "5".toList)]⟩
    let t : Text := "@?year@@?month@May@;year@ 2021@;month@".toList
    occurrences Conditional.opener t < maxDepth ∧
      resolve e t = "@?month@May 2021@;month@".toList ∧ ¬ BlockFree (resolve e t) ∧
      resolve e (resolve e t) = "May 2021".toList := by
  intro e t
  have hfirst : resolve e t = "@?month@May 2021@;month@".toList := by
    have hblock : IsBlock t ⟨"year".toList, none⟩ "@?month@May".toList " 2021@;month@".toList :=
      ⟨by decide, _, rfl, Text.cutAt?_eq_some_iff.1 rfl⟩
    have hchosen : Chooses e ⟨"year".toList, none⟩ "@?month@May".toList "@?month@May".toList :=
      .inr ⟨Text.contains_eq_false_iff.1 (by decide), rfl⟩
    exact resolve_of_keeps (.of_start hblock hchosen (by decide) (by decide)) (by decide)
  have hsecond : resolve e "@?month@May 2021@;month@".toList = "May 2021".toList := by
    have hblock : IsBlock "@?month@May 2021@;month@".toList ⟨"month".toList, none⟩
        "May 2021".toList [] :=
      ⟨by decide, _, rfl, Text.cutAt?_eq_some_iff.1 rfl⟩
    have hchosen : Chooses e ⟨"month".toList, none⟩ "May 2021".toList "May 2021".toList :=
      .inr ⟨Text.contains_eq_false_iff.1 (by decide), rfl⟩
    exact resolve_of_keeps (.of_start hblock hchosen (by decide) (by decide)) (by decide)
  refine ⟨by decide, hfirst, ?_, by rw [hfirst, hsecond]⟩
  rw [hfirst, ← resolve_eq_self_iff e, hsecond]
  decide

end PubList.Template
