import PubList.Proofs.Inert

/-!
# The leftmost and shortest reading of conditionals

A grammar of conditionals that speaks of a text and its parts and of no scanner. A block is a head, a
body and the closing mark for its field, where the body is as short as it can be (`IsBlock`). Reading
finds a conditional exactly where a block starts (`read?_eq_some_iff`), so the resolution of a text
is that of its first block and of what follows it (`resolve_leftmost_shortest`).

The resolution counts levels and the grammar does not. Both agree on a text with fewer than
`maxDepth` opening marks: each level uses one of them up, because a branch does not have the opening
mark of its block (`resolveLevels_eq_of_le`).
-/

namespace PubList

namespace Text

/-! ## Counting occurrences -/

/-- At how many positions of a text a mark begins. A mark is not empty. -/
def occurrences (mark : Text) : Text → Nat
  | [] => 0
  | c :: t => occurrences mark t + if mark <+: c :: t then 1 else 0

theorem occurrences_cons_le (mark : Text) (c : Char) (t : Text) :
    occurrences mark t ≤ occurrences mark (c :: t) := by
  rw [occurrences]
  exact Nat.le_add_right _ _

/-- What two texts have each is there when they are put together. -/
theorem occurrences_add_le (mark s t : Text) :
    occurrences mark s + occurrences mark t ≤ occurrences mark (s ++ t) := by
  induction s with
  | nil => simp [occurrences]
  | cons c s ih =>
    rw [List.cons_append, occurrences, occurrences]
    by_cases hpre : mark <+: c :: s
    · have hpre' : mark <+: c :: (s ++ t) := hpre.trans (List.prefix_append (c :: s) t)
      rw [if_pos hpre, if_pos hpre']
      omega
    · rw [if_neg hpre]
      omega

theorem occurrences_le_of_infix (mark : Text) {s t : Text} (h : s <:+: t) :
    occurrences mark s ≤ occurrences mark t := by
  obtain ⟨u, v, rfl⟩ := h
  have hleft := occurrences_add_le mark u s
  have hright := occurrences_add_le mark (u ++ s) v
  omega

/-- What is said of all ends of a text is decided along the text. -/
instance decidableForallSuffix (p : Text → Prop) [DecidablePred p] :
    (t : Text) → Decidable (∀ w, w <:+ t → p w)
  | [] => decidable_of_iff (p []) (by simp)
  | c :: t =>
    have := decidableForallSuffix p t
    decidable_of_iff (p (c :: t) ∧ ∀ w, w <:+ t → p w) (by simp [List.suffix_cons_iff])

end Text

namespace Template

open Text (IsWord isWordChar cutAt? FirstCut occurrences)

/-! ## The grammar -/

/-- At the start of the text there is a block: `@?`, the name of a field, a test if there is one, and
`@`; then the body, and the first mark that closes the field. -/
structure IsBlock (t : Text) (c : Condition) (body rest : Text) : Prop where
  wellFormed : c.WellFormed
  exists_behind : ∃ behind,
    t = Conditional.opener ++ (c.field ++ (c.testText ++ '@' :: behind)) ∧
      FirstCut (Conditional.closer c.field) behind body rest

def StartsBlock (t : Text) : Prop := ∃ c body rest, IsBlock t c body rest

/-- The branch of a block that an entry chooses: what stands before the first separator of the body if
the condition holds, and what stands behind it if not. Without a separator, it is the whole body or
nothing. -/
def Chooses (e : Entry) (c : Condition) (body branch : Text) : Prop :=
  (∃ yes no, FirstCut (Conditional.separator c.field) body yes no ∧
      branch = if c.holds e then yes else no) ∨
    ¬ Conditional.separator c.field <:+: body ∧ branch = if c.holds e then body else []

theorem IsBlock.text_eq {t body rest : Text} {c : Condition} (h : IsBlock t c body rest) :
    t = (c.around body).text ++ rest := by
  obtain ⟨-, behind, ht, hcut⟩ := h
  rw [ht, hcut.text_eq, Condition.text_around]
  simp [placeholder, Condition.question, Conditional.opener, Conditional.closer]

/-! ## Reading finds the blocks -/

theorem not_mem_of_cutAtChar? {a : Char} {t before after : Text}
    (h : Text.cutAtChar? a t = some (before, after)) : a ∉ before := by
  intro hmem
  have hcut : FirstCut [a] t before after := Text.cutAt?_eq_some_iff.1 h
  obtain ⟨u, v, rfl⟩ := List.append_of_mem hmem
  have hle := hcut.shortest u (v ++ [a] ++ after) (by rw [hcut.text_eq]; simp)
  rw [List.length_append, List.length_cons] at hle
  omega

/-- What is read as the rest of a head is a test without `@` in its text, and an `@`. -/
theorem testText_of_readTest? {field t behind : Text} {test : Option (Operator × Text)}
    (hfield : IsWord field) (h : Conditional.readTest? t = some (test, behind)) :
    Condition.WellFormed ⟨field, test⟩ ∧
      t = Condition.testText ⟨field, test⟩ ++ '@' :: behind := by
  unfold Conditional.readTest? at h
  split at h
  · cases h
    exact ⟨⟨hfield, trivial⟩, rfl⟩
  · simp only [Option.bind_eq_bind, Option.bind_eq_some_iff] at h
    obtain ⟨⟨op, t'⟩, hop, ⟨expected, rest⟩, hexpected, heq⟩ := h
    cases heq
    refine ⟨⟨hfield, not_mem_of_cutAtChar? hexpected⟩, ?_⟩
    have ht' : t' = expected ++ ['@'] ++ rest := Text.eq_of_cutAt? hexpected
    simp [Conditional.eq_of_split? hop, ht', Condition.testText]

/-- Behind an opening mark, a conditional is read exactly if a block starts with the mark. -/
theorem read?_eq_some_iff {t rest : Text} {d : Conditional} :
    Conditional.read? t = some (d, rest) ↔
      ∃ c body, d = c.around body ∧ IsBlock ('@' :: '?' :: t) c body rest := by
  constructor
  · intro h
    have hsplit := List.takeWhile_append_dropWhile (p := isWordChar) (l := t)
    have hall := List.all_eq_true.1 (List.all_takeWhile (p := isWordChar) (l := t))
    simp only [Conditional.read?] at h
    split at h
    · cases h
    · next hne =>
      simp only [Option.bind_eq_bind, Option.bind_eq_some_iff] at h
      obtain ⟨⟨test, behind⟩, htest, ⟨body, rest'⟩, hbody, heq⟩ := h
      cases heq
      obtain ⟨hwf, hdrop⟩ := testText_of_readTest? ⟨hne, hall⟩ htest
      refine ⟨⟨t.takeWhile isWordChar, test⟩, body, rfl, hwf, behind, ?_,
        Text.cutAt?_eq_some_iff.1 hbody⟩
      show '@' :: '?' :: t = '@' :: '?' :: (t.takeWhile isWordChar ++ _)
      rw [← hdrop, hsplit]
  · rintro ⟨c, body, rfl, hblock⟩
    have hcut : cutAt? (placeholder (';' :: c.field))
        (body ++ (placeholder (';' :: c.field) ++ rest)) = some (body, rest) := by
      obtain ⟨-, behind, -, hfirst⟩ := hblock
      have hbehind : behind = body ++ (placeholder (';' :: c.field) ++ rest) := by
        rw [← List.append_assoc]
        exact hfirst.text_eq
      exact Text.cutAt?_eq_some_iff.2 (hbehind ▸ hfirst)
    obtain ⟨t', htext, hread⟩ := read?_around hblock.wellFormed hcut
    have ht : t = t' := by
      have := hblock.text_eq.trans htext
      simpa using this
    rw [ht]
    exact hread

theorem IsBlock.exists_read {v body rest : Text} {c : Condition} (h : IsBlock v c body rest) :
    ∃ t, v = '@' :: '?' :: t ∧ Conditional.read? t = some (c.around body, rest) := by
  obtain ⟨-, behind, rfl, -⟩ := id h
  exact ⟨_, rfl, read?_eq_some_iff.2 ⟨c, body, rfl, h⟩⟩

theorem startsBlock_iff {v : Text} :
    StartsBlock v ↔ ∃ t, v = '@' :: '?' :: t ∧ (Conditional.read? t).isSome = true := by
  constructor
  · rintro ⟨c, body, rest, h⟩
    obtain ⟨t, rfl, hread⟩ := h.exists_read
    exact ⟨t, rfl, by rw [hread]; rfl⟩
  · rintro ⟨t, rfl, hread⟩
    obtain ⟨⟨d, rest⟩, hread⟩ := Option.isSome_iff_exists.1 hread
    obtain ⟨c, body, -, h⟩ := read?_eq_some_iff.1 hread
    exact ⟨c, body, rest, h⟩

/-- Whether a block starts with the text, by reading it. -/
def startsBlock (v : Text) : Bool :=
  match v with
  | '@' :: '?' :: t => (Conditional.read? t).isSome
  | _ => false

theorem startsBlock_eq_true_iff {v : Text} : startsBlock v = true ↔ StartsBlock v := by
  rw [startsBlock_iff]
  constructor
  · intro h
    unfold startsBlock at h
    split at h
    · next t => exact ⟨t, rfl, h⟩
    · cases h
  · rintro ⟨t, rfl, hread⟩
    exact hread

instance (v : Text) : Decidable (StartsBlock v) :=
  decidable_of_iff (startsBlock v = true) startsBlock_eq_true_iff

theorem chooses_iff {e : Entry} {c : Condition} {body branch : Text} :
    Chooses e c body branch ↔ branch = (c.around body).branch e := by
  have hfield : (c.around body).field = c.field := rfl
  have hbody : (c.around body).body = body := rfl
  simp only [Chooses, Conditional.branch, Conditional.thenPart, Conditional.elsePart,
    Condition.holds_around, hfield, hbody]
  cases hcut : cutAt? (Conditional.separator c.field) body with
  | none =>
    have hno := Text.cutAt?_eq_none.1 hcut
    simp only [hno, not_false_eq_true, true_and, or_iff_right_iff_imp]
    rintro ⟨yes, no, hfirst, -⟩
    exact absurd ⟨yes, no, hfirst.text_eq.symm⟩ hno
  | some parts =>
    obtain ⟨yes, no⟩ := parts
    have hfirst : FirstCut (Conditional.separator c.field) body yes no :=
      Text.cutAt?_eq_some_iff.1 hcut
    have hinside : Conditional.separator c.field <:+: body := ⟨yes, no, hfirst.text_eq.symm⟩
    simp only [hinside, not_true_eq_false, false_and, or_false]
    constructor
    · rintro ⟨yes', no', hfirst', rfl⟩
      have heq := hcut.symm.trans (Text.cutAt?_eq_some_iff.2 hfirst')
      cases heq
      rfl
    · rintro rfl
      exact ⟨yes, no, hfirst, rfl⟩

/-! ## Levels -/

/-- The opening mark of a conditional is not counted in its body or behind it. -/
theorem occurrences_of_read? {t rest : Text} {d : Conditional}
    (h : Conditional.read? t = some (d, rest)) :
    occurrences Conditional.opener d.body + occurrences Conditional.opener rest <
      occurrences Conditional.opener ('@' :: '?' :: t) := by
  have htext : '@' :: '?' :: t = d.head ++ (d.body ++ (Conditional.closer d.field ++ rest)) := by
    have htext : '@' :: '?' :: t = d.text ++ rest := Conditional.text_append_of_read? h
    rw [htext, Conditional.text]
    simp only [List.append_assoc]
  have hhead : 1 ≤ occurrences Conditional.opener d.head := by
    have hinside : Conditional.opener <:+: d.head :=
      (List.prefix_append _ _).isInfix.trans (List.prefix_append _ _).isInfix
    exact Text.occurrences_le_of_infix Conditional.opener hinside
  have h₁ := Text.occurrences_add_le Conditional.opener d.head
    (d.body ++ (Conditional.closer d.field ++ rest))
  have h₂ := Text.occurrences_add_le Conditional.opener d.body (Conditional.closer d.field ++ rest)
  have h₃ := Text.occurrences_add_le Conditional.opener (Conditional.closer d.field) rest
  rw [htext]
  omega

/-- Levels that a text has no opening marks for make no difference. -/
theorem resolveLevels_eq_of_le (e : Entry) {levels levels' : Nat} {t : Text}
    (h : occurrences Conditional.opener t ≤ levels)
    (h' : occurrences Conditional.opener t ≤ levels') :
    resolveLevels e levels t = resolveLevels e levels' t := by
  induction levels, t using resolveLevels.induct e generalizing levels' with
  | case1 => rw [resolveLevels_nil, resolveLevels_nil]
  | case2 levels t hread ih =>
    have hle : occurrences Conditional.opener t ≤ occurrences Conditional.opener ('@' :: '?' :: t) :=
      Text.occurrences_le_of_infix Conditional.opener (List.suffix_append ['@', '?'] t).isInfix
    rw [resolveLevels_of_read?_eq_none e levels hread, resolveLevels_of_read?_eq_none e levels' hread,
      ih (Nat.le_trans hle h) (Nat.le_trans hle h')]
  | case3 levels t c rest hread ihBranch ihRest =>
    have hlt := occurrences_of_read? hread
    have hbranch := Text.occurrences_le_of_infix Conditional.opener (branch_infix_body c e)
    obtain ⟨inner, rfl⟩ := Nat.exists_eq_succ_of_ne_zero (show levels ≠ 0 by omega)
    obtain ⟨inner', rfl⟩ := Nat.exists_eq_succ_of_ne_zero (show levels' ≠ 0 by omega)
    have hinner : resolveLevels e inner (c.branch e) = resolveLevels e inner' (c.branch e) :=
      ihBranch (by omega) (by omega)
    have hrest : resolveLevels e (inner + 1) rest = resolveLevels e (inner' + 1) rest :=
      ihRest (by omega) (by omega)
    rw [resolveLevels_succ_of_read? e inner hread, resolveLevels_succ_of_read? e inner' hread,
      hinner, hrest]
  | case4 levels a t hstart ih =>
    have hle := Text.occurrences_cons_le Conditional.opener a t
    rw [resolveLevels_cons e levels hstart, resolveLevels_cons e levels' hstart,
      ih (Nat.le_trans hle h) (Nat.le_trans hle h')]

/-! ## The first block -/

/-- What stands in front of the first block stays. -/
theorem resolveLevels_append_of_first (e : Entry) (levels : Nat) {before v : Text}
    (h : ∀ w, w <:+ before ++ v → v.length < w.length → ¬ StartsBlock w) :
    resolveLevels e levels (before ++ v) = before ++ resolveLevels e levels v := by
  induction before with
  | nil => rfl
  | cons a s ih =>
    have hrest : resolveLevels e levels (s ++ v) = s ++ resolveLevels e levels v :=
      ih fun w hw => h w (hw.trans (List.suffix_cons a (s ++ v)))
    have hhere : ¬ StartsBlock (a :: (s ++ v)) :=
      h _ (List.suffix_refl _) (Nat.lt_succ_of_le (List.suffix_append s v).length_le)
    by_cases ha : a = '@'
    · subst ha
      have hread (t : Text) (ht : s ++ v = '?' :: t) : Conditional.read? t = none := by
        rw [startsBlock_iff, ht] at hhere
        simpa using hhere
      rw [List.cons_append, resolveLevels_at e levels hread, hrest, List.cons_append]
    · rw [List.cons_append, resolveLevels_cons e levels fun _ hc => absurd hc ha, hrest,
        List.cons_append]

/-- A text in which no block starts stays. -/
theorem resolve_eq_self_of_no_block (e : Entry) {t : Text} (h : ∀ w, w <:+ t → ¬ StartsBlock w) :
    resolve e t = t := by
  have hstay : resolveLevels e maxDepth (t ++ []) = t ++ resolveLevels e maxDepth [] :=
    resolveLevels_append_of_first e maxDepth fun w hw _ => h w (by simpa using hw)
  simpa [resolve] using hstay

/-- **The leftmost and shortest reading.** Let a text have fewer than `maxDepth` opening marks. If no
block starts in it, it stays as it is. Otherwise the first position at which a block starts decides:
what stands before it stays, the block is replaced by the resolution of the branch that the entry
chooses, and the resolution of what follows the block comes next. -/
theorem resolve_leftmost_shortest (e : Entry) {t : Text}
    (ht : occurrences Conditional.opener t < maxDepth) :
    ((∀ w, w <:+ t → ¬ StartsBlock w) → resolve e t = t) ∧
      ∀ before v c body rest branch, t = before ++ v →
        (∀ w, w <:+ t → v.length < w.length → ¬ StartsBlock w) → IsBlock v c body rest →
        Chooses e c body branch →
        resolve e t = before ++ (resolve e branch ++ resolve e rest) := by
  refine ⟨resolve_eq_self_of_no_block e, ?_⟩
  rintro before v c body rest branch rfl hfirst hblock hchooses
  obtain ⟨t, rfl, hread⟩ := hblock.exists_read
  -- The branch has too few opening marks to notice that it is one level further down.
  have hbranch : resolveLevels e (maxDepth - 1) branch = resolveLevels e maxDepth branch := by
    have hinside : branch <:+: body := by
      rw [chooses_iff.1 hchooses]
      exact branch_infix_body (c.around body) e
    have hbody := Text.occurrences_le_of_infix Conditional.opener hinside
    have hv := Text.occurrences_le_of_infix Conditional.opener
      (List.suffix_append before ('@' :: '?' :: t)).isInfix
    have hlt : occurrences Conditional.opener body + _ < _ := occurrences_of_read? hread
    exact resolveLevels_eq_of_le e (by omega) (by omega)
  have hstep : resolveLevels e maxDepth ('@' :: '?' :: t) =
      resolveLevels e (maxDepth - 1) ((c.around body).branch e) ++ resolveLevels e maxDepth rest :=
    resolveLevels_succ_of_read? e (maxDepth - 1) hread
  simp only [resolve]
  rw [resolveLevels_append_of_first e maxDepth hfirst, hstep, ← chooses_iff.1 hchooses, hbranch]

/-- An opening mark without an operator that is known starts no block, nor does one that is not
closed; the block between them has another one in its first branch. -/
theorem resolve_leftmost_shortest_year :
    let e : Entry := ⟨"k".toList, [("year".toList, "2021".toList)]⟩
    resolve e "@?year<2000@x@;year@".toList = "@?year<2000@x@;year@".toList ∧
      resolve e "@?year<2000@x @?year!=1999@new@?doi@D@;doi@@:year@old@;year@ @?url@".toList =
        "@?year<2000@x ".toList ++
          (resolve e "new@?doi@D@;doi@".toList ++ resolve e " @?url@".toList) := by
  intro e
  refine ⟨(resolve_leftmost_shortest e (by decide)).1 (by decide), ?_⟩
  refine (resolve_leftmost_shortest e (by decide)).2 _
    "@?year!=1999@new@?doi@D@;doi@@:year@old@;year@ @?url@".toList
    ⟨"year".toList, some (.notEqual, "1999".toList)⟩ "new@?doi@D@;doi@@:year@old".toList _ _ rfl
    (by decide +kernel) ⟨by decide, _, rfl, Text.cutAt?_eq_some_iff.1 rfl⟩ (.inl ?_)
  exact ⟨_, "old".toList, Text.cutAt?_eq_some_iff.1 rfl, rfl⟩

end Template

end PubList
