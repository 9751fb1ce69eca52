import PubList.Proofs.LeftmostShortest
import PubList.Proofs.Values

/-!
# Which templates are refused

The check of a template walks from group block to group block, and in each of them from entry block
to entry block. What it refuses can be told from the order of the markers alone
(`render_error_iff`): two groups that are opened in front of one closing marker, or an entry block
that is opened in a group and not closed in it.

The walk passes a marker as a whole, and two markers can share an `@`. A text is `Separated` if this
does not happen. Two markers in it are the same or stand one behind the other (`Separated.cases`),
and the argument is a sequence of such comparisons.
-/

namespace PubList.Template

open Text (FirstCut cutAt?)

/-! ## Separated texts -/

/-- The markers of blocks. -/
def markers : List Text :=
  [BlockKind.group.opener, BlockKind.group.closer, BlockKind.entry.opener, BlockKind.entry.closer]

theorem BlockKind.opener_mem_markers (kind : BlockKind) : kind.opener ∈ markers := by
  cases kind <;> decide

theorem BlockKind.closer_mem_markers (kind : BlockKind) : kind.closer ∈ markers := by
  cases kind <;> decide

theorem length_of_mem_markers {m : Text} (hm : m ∈ markers) : m.length = 8 := by
  have hall : ∀ m ∈ markers, m.length = 8 := by decide
  exact hall m hm

/-- No two markers overlap: if one begins at `w` and another one further on, at `v`, then the first one
ends in front of `v`. -/
def Separated (t : Text) : Prop :=
  ∀ w, w <:+ t → ∀ m ∈ markers, m <+: w → ∀ v, v <:+ w → ∀ n ∈ markers, n <+: v →
    v = w ∨ v.length + m.length ≤ w.length

instance (t : Text) : Decidable (Separated t) :=
  inferInstanceAs (Decidable (∀ w, w <:+ t → ∀ m ∈ markers, m <+: w → ∀ v, v <:+ w →
    ∀ n ∈ markers, n <+: v → v = w ∨ v.length + m.length ≤ w.length))

section Separated

variable {m n s t x x' y y' : Text}

theorem Separated.of_isInfix (ht : Separated t) (hs : s <:+: t) : Separated s := by
  obtain ⟨u, r, rfl⟩ := hs
  intro w hw m hm hmw v hv n hn hnv
  have hw' : w ++ r <:+ u ++ s ++ r := by
    obtain ⟨p, rfl⟩ := hw
    exact ⟨u ++ p, by simp⟩
  have hv' : v ++ r <:+ w ++ r := by
    obtain ⟨p, rfl⟩ := hv
    exact ⟨p, by simp⟩
  rcases ht _ hw' m hm (hmw.trans (List.prefix_append w r)) _ hv' n hn
    (hnv.trans (List.prefix_append v r)) with h | h
  · exact .inl (List.append_cancel_right h)
  · rw [List.length_append, List.length_append] at h
    exact .inr (by omega)

/-- The marker at the start of a separated text ends in front of any other one. -/
theorem Separated.cases_start (ht : Separated (m ++ y)) (hm : m ∈ markers) (hn : n ∈ markers)
    (h : m ++ y = x ++ (n ++ y')) :
    (m = n ∧ x = [] ∧ y = y') ∨ ∃ z, x = m ++ z ∧ y = z ++ (n ++ y') := by
  have hlength : (m ++ y).length = x.length + (n ++ y').length := by rw [h, List.length_append]
  rcases ht _ (List.suffix_refl _) m hm (List.prefix_append m y) _ ⟨x, h.symm⟩ n hn
    (List.prefix_append n y') with heq | hle
  · rw [heq] at hlength
    obtain rfl : x = [] := List.length_eq_zero_iff.1 (by omega)
    have hsame : m.length = n.length :=
      (length_of_mem_markers hm).trans (length_of_mem_markers hn).symm
    obtain ⟨rfl, rfl⟩ := List.append_inj heq.symm hsame
    exact .inl ⟨rfl, rfl, rfl⟩
  · obtain ⟨z, rfl⟩ := List.prefix_of_prefix_length_le ⟨y, rfl⟩ ⟨n ++ y', h.symm⟩
      (show m.length ≤ x.length by omega)
    exact .inr ⟨z, rfl, by simpa using h⟩

/-- Two markers of a separated text are the same one, or one of them stands behind the other. -/
theorem Separated.cases (ht : Separated t) (hm : m ∈ markers) (hn : n ∈ markers)
    (h : t = x ++ (m ++ y)) (h' : t = x' ++ (n ++ y')) :
    (m = n ∧ x = x' ∧ y = y') ∨ (∃ z, x' = x ++ (m ++ z) ∧ y = z ++ (n ++ y')) ∨
      ∃ z, x = x' ++ (n ++ z) ∧ y' = z ++ (m ++ y) := by
  rcases List.append_eq_append_iff.1 (h.symm.trans h') with ⟨u, rfl, hu⟩ | ⟨u, rfl, hu⟩
  · have hstart : Separated (m ++ y) := ht.of_isInfix ⟨x, [], by simp [h]⟩
    rcases hstart.cases_start hm hn hu with ⟨rfl, rfl, rfl⟩ | ⟨z, rfl, hz⟩
    · exact .inl ⟨rfl, by simp, rfl⟩
    · exact .inr (.inl ⟨z, rfl, hz⟩)
  · have hstart : Separated (n ++ y') := ht.of_isInfix ⟨x', [], by simp [h']⟩
    rcases hstart.cases_start hn hm hu with ⟨rfl, rfl, rfl⟩ | ⟨z, rfl, hz⟩
    · exact .inl ⟨rfl, by simp, rfl⟩
    · exact .inr (.inr ⟨z, rfl, hz⟩)

end Separated

/-! ## Blocks -/

/-- A block that is found begins at the first opening marker and ends at the first closing one. -/
theorem firstCut_of_findBlock? {kind : BlockKind} {t : Text} {b : Block}
    (h : findBlock? kind t = some b) :
    FirstCut kind.opener t b.before (b.body ++ kind.closer ++ b.after) ∧
      ¬ kind.closer <:+: b.body := by
  simp only [findBlock?, Option.bind_eq_bind, Option.bind_eq_some_iff] at h
  obtain ⟨⟨before, rest⟩, hopen, ⟨body, after⟩, hclose, heq⟩ := h
  cases heq
  have hfirst : FirstCut kind.opener t before rest := Text.cutAt?_eq_some_iff.1 hopen
  have hbody : FirstCut kind.closer rest body after := Text.cutAt?_eq_some_iff.1 hclose
  have hne : kind.closer ≠ [] := List.ne_nil_of_length_pos (by rw [kind.closer_length]; decide)
  refine ⟨?_, hbody.not_isInfix hne⟩
  rw [← hbody.text_eq]
  exact hfirst

/-- If there is no block, nothing that is opened is closed behind it. -/
theorem not_closer_infix_of_findBlock?_eq_none {kind : BlockKind} {t x y : Text}
    (h : findBlock? kind t = none) (ht : t = x ++ (kind.opener ++ y)) : ¬ kind.closer <:+: y := by
  have hopen : cutAt? kind.opener t ≠ none := fun hnone =>
    Text.cutAt?_eq_none.1 hnone ⟨x, y, by rw [ht, List.append_assoc]⟩
  obtain ⟨⟨before, rest⟩, hcut⟩ := Option.ne_none_iff_exists'.1 hopen
  have hfirst : FirstCut kind.opener t before rest := Text.cutAt?_eq_some_iff.1 hcut
  have hclose : cutAt? kind.closer rest = none := by
    cases hc : cutAt? kind.closer rest with
    | none => rfl
    | some p => simp [findBlock?, hcut, hc] at h
  have hy : y <:+ rest := hfirst.suffix (by rw [ht, List.append_assoc])
  intro hbehind
  exact Text.cutAt?_eq_none.1 hclose (hbehind.trans hy.isInfix)

/-- The text of a block that is found, from left to right. -/
theorem eq_append_of_findBlock? {kind : BlockKind} {t : Text} {b : Block}
    (h : findBlock? kind t = some b) :
    t = b.before ++ (kind.opener ++ (b.body ++ (kind.closer ++ b.after))) := by
  rw [eq_text_of_findBlock? h, Block.text]
  simp only [List.append_assoc]

theorem suffix_of_findBlock? {kind : BlockKind} {t : Text} {b : Block}
    (h : findBlock? kind t = some b) : b.after <:+ t :=
  ⟨b.before ++ kind.opener ++ b.body ++ kind.closer, (eq_text_of_findBlock? h).symm⟩

/-! ## Entry blocks -/

/-- An entry block is opened and not closed behind it. -/
def LeavesEntryOpen (t : Text) : Prop :=
  ∃ x y, t = x ++ (BlockKind.entry.opener ++ y) ∧ ¬ BlockKind.entry.closer <:+: y

theorem hasUnclosedEntry_iff {t : Text} (ht : Separated t) :
    hasUnclosedEntry t = true ↔ LeavesEntryOpen t := by
  fun_induction hasUnclosedEntry t with
  | case1 t hnone =>
    rw [Text.contains_iff]
    constructor
    · rintro ⟨x, y, heq⟩
      rw [List.append_assoc] at heq
      exact ⟨x, y, heq.symm, not_closer_infix_of_findBlock?_eq_none hnone heq.symm⟩
    · rintro ⟨x, y, rfl, -⟩
      exact ⟨x, y, by rw [List.append_assoc]⟩
  | case2 t b hsome ih =>
    have heq := eq_append_of_findBlock? hsome
    have hsuffix := suffix_of_findBlock? hsome
    rw [ih (ht.of_isInfix hsuffix.isInfix)]
    constructor
    · rintro ⟨x, y, hxy, hy⟩
      obtain ⟨u, hu⟩ := hsuffix
      exact ⟨u ++ x, y, by rw [← hu, hxy, List.append_assoc], hy⟩
    · rintro ⟨x, y, hxy, hy⟩
      -- The opening marker does not stand in front of the one that closes the block.
      have hclose : t = (b.before ++ (BlockKind.entry.opener ++ b.body)) ++
          (BlockKind.entry.closer ++ b.after) := by
        rw [heq]
        simp only [List.append_assoc]
      rcases ht.cases (BlockKind.opener_mem_markers .entry) (BlockKind.closer_mem_markers .entry)
        hxy hclose with ⟨hsame, -⟩ | ⟨z, -, rfl⟩ | ⟨z, -, hz⟩
      · exact absurd hsame (by decide)
      · exact absurd ⟨z, b.after, by simp⟩ hy
      · exact ⟨z, y, hz, hy⟩

/-! ## Group blocks -/

/-- Two groups are opened in front of a closing marker. -/
def NestsGroup (t : Text) : Prop :=
  ∃ x y z, t = x ++ (BlockKind.group.opener ++ (y ++ (BlockKind.group.opener ++ z))) ∧
    ¬ BlockKind.group.closer <:+: y ∧ BlockKind.group.closer <:+: z

/-- An entry block is opened between an opening marker of a group and the first closing one behind it,
and not closed between them. -/
def CrossesGroup (t : Text) : Prop :=
  ∃ x y z w, t = x ++ (BlockKind.group.opener ++
      (y ++ (BlockKind.entry.opener ++ (z ++ (BlockKind.group.closer ++ w))))) ∧
    ¬ BlockKind.group.closer <:+: y ++ (BlockKind.entry.opener ++ z) ∧
    ¬ BlockKind.entry.closer <:+: z

theorem NestsGroup.of_suffix {s t : Text} (h : NestsGroup s) (hs : s <:+ t) : NestsGroup t := by
  obtain ⟨x, y, z, rfl, hy, hz⟩ := h
  obtain ⟨u, rfl⟩ := hs
  exact ⟨u ++ x, y, z, by rw [List.append_assoc], hy, hz⟩

theorem CrossesGroup.of_suffix {s t : Text} (h : CrossesGroup s) (hs : s <:+ t) : CrossesGroup t := by
  obtain ⟨x, y, z, w, rfl, hyz, hz⟩ := h
  obtain ⟨u, rfl⟩ := hs
  exact ⟨u ++ x, y, z, w, by rw [List.append_assoc], hyz, hz⟩

section FirstGroup

variable {t : Text} {b : Block}

theorem separated_behind_opener (ht : Separated t) (h : findBlock? .group t = some b) :
    Separated (b.body ++ (BlockKind.group.closer ++ b.after)) :=
  ht.of_isInfix ⟨b.before ++ BlockKind.group.opener, [], by rw [eq_append_of_findBlock? h]; simp⟩

theorem not_nestsGroup_of_findBlock?_eq_none (h : findBlock? .group t = none) : ¬ NestsGroup t := by
  rintro ⟨x, y, z, heq, -, hz⟩
  have hbehind := not_closer_infix_of_findBlock?_eq_none h heq
  exact hbehind (hz.trans ⟨y ++ BlockKind.group.opener, [], by simp⟩)

theorem not_crossesGroup_of_findBlock?_eq_none (h : findBlock? .group t = none) :
    ¬ CrossesGroup t := by
  rintro ⟨x, y, z, w, heq, -, -⟩
  have hbehind := not_closer_infix_of_findBlock?_eq_none h heq
  exact hbehind ⟨y ++ (BlockKind.entry.opener ++ z), w, by simp⟩

/-- If no group is opened in the first block, every marker that opens a group is the one of the block
or stands behind the block. -/
theorem cases_opener_of_findBlock? (ht : Separated t) (h : findBlock? .group t = some b)
    (hbody : ¬ BlockKind.group.opener <:+: b.body) {x y : Text}
    (hxy : t = x ++ (BlockKind.group.opener ++ y)) :
    y = b.body ++ (BlockKind.group.closer ++ b.after) ∨
      BlockKind.group.opener ++ y <:+ b.after := by
  have heq := eq_append_of_findBlock? h
  have hopener := BlockKind.opener_mem_markers .group
  have hcloser := BlockKind.closer_mem_markers .group
  rcases ht.cases hopener hopener heq hxy with ⟨-, -, hy⟩ | ⟨z, -, hz⟩ | ⟨z, hz, -⟩
  · exact .inl hy.symm
  · rcases (separated_behind_opener ht h).cases hcloser hopener rfl hz with
      ⟨hsame, -⟩ | ⟨u, -, hu⟩ | ⟨u, hu, -⟩
    · exact absurd hsame (by decide)
    · exact .inr ⟨u, hu.symm⟩
    · exact absurd ⟨z, u, by rw [hu]; simp⟩ hbody
  · have hfront := (firstCut_of_findBlock? h).1.not_isInfix (by decide)
    exact absurd ⟨x, z, by rw [hz]; simp⟩ hfront

/-- A group that is opened in the first block is nested in it. -/
theorem nestsGroup_of_findBlock? (h : findBlock? .group t = some b)
    (hbody : BlockKind.group.opener <:+: b.body) : NestsGroup t := by
  obtain ⟨inner, rest, hinner⟩ := hbody
  have hclose : ¬ BlockKind.group.closer <:+: inner := by
    intro hpart
    apply (firstCut_of_findBlock? h).2
    rw [← hinner, List.append_assoc]
    exact hpart.trans (List.prefix_append _ _).isInfix
  refine ⟨b.before, inner, rest ++ (BlockKind.group.closer ++ b.after), ?_, hclose,
    ⟨rest, b.after, by rw [List.append_assoc]⟩⟩
  rw [eq_append_of_findBlock? h, ← hinner]
  simp only [List.append_assoc]

/-- If no group is opened in the first block, no group is nested there. -/
theorem nestsGroup_iff_of_findBlock? (ht : Separated t) (h : findBlock? .group t = some b)
    (hbody : ¬ BlockKind.group.opener <:+: b.body) : NestsGroup t ↔ NestsGroup b.after := by
  constructor
  · rintro ⟨x, y, z, hxyz, hy, hz⟩
    rcases cases_opener_of_findBlock? ht h hbody hxyz with hrest | ⟨u, hu⟩
    · -- The second opening marker stands behind the block, and the closing one in front of it.
      rcases (separated_behind_opener ht h).cases (BlockKind.closer_mem_markers .group)
        (BlockKind.opener_mem_markers .group) rfl hrest.symm with
        ⟨hsame, -⟩ | ⟨v, rfl, -⟩ | ⟨v, hv, -⟩
      · exact absurd hsame (by decide)
      · exact absurd ⟨b.body, v, by simp⟩ hy
      · exact absurd ⟨y, v, by rw [hv]; simp⟩ hbody
    · exact ⟨u, y, z, hu.symm, hy, hz⟩
  · exact fun hafter => hafter.of_suffix (suffix_of_findBlock? h)

/-- If no group is opened in the first block, a group is crossed there or behind it. -/
theorem crossesGroup_iff_of_findBlock? (ht : Separated t) (h : findBlock? .group t = some b)
    (hbody : ¬ BlockKind.group.opener <:+: b.body) :
    CrossesGroup t ↔ LeavesEntryOpen b.body ∨ CrossesGroup b.after := by
  have heq := eq_append_of_findBlock? h
  have hcloser := BlockKind.closer_mem_markers .group
  have hfirst := (firstCut_of_findBlock? h).2
  constructor
  · rintro ⟨x, y, z, w, hxyzw, hyz, hz⟩
    rcases cases_opener_of_findBlock? ht h hbody hxyzw with hrest | ⟨u, hu⟩
    · -- The closing marker behind the entry block is the one of the group block.
      have hcrossed : b.body ++ (BlockKind.group.closer ++ b.after) =
          (y ++ (BlockKind.entry.opener ++ z)) ++ (BlockKind.group.closer ++ w) := by
        rw [← hrest]
        simp
      rcases (separated_behind_opener ht h).cases hcloser hcloser rfl hcrossed with
        ⟨-, hsame, -⟩ | ⟨v, hv, -⟩ | ⟨v, hv, -⟩
      · exact .inl ⟨y, z, hsame, hz⟩
      · exact absurd ⟨b.body, v, by rw [hv]; simp⟩ hyz
      · exact absurd ⟨_, v, by rw [hv, List.append_assoc]⟩ hfirst
    · exact .inr ⟨u, y, z, w, hu.symm, hyz, hz⟩
  · rintro (⟨y, z, hyz, hz⟩ | hafter)
    · refine ⟨b.before, y, z, b.after, ?_, hyz ▸ hfirst, hz⟩
      rw [heq, hyz]
      simp only [List.append_assoc]
    · exact hafter.of_suffix (suffix_of_findBlock? h)

end FirstGroup

/-- **The check.** In a separated text, an error is found exactly if the groups are nested or crossed. -/
theorem checkBlocks_error_iff {t : Text} (ht : Separated t) (offset : Nat) :
    (∃ err, checkBlocks offset t = .error err) ↔ NestsGroup t ∨ CrossesGroup t := by
  fun_induction checkBlocks offset t with
  | case1 offset t hnone =>
    simp [not_nestsGroup_of_findBlock?_eq_none hnone, not_crossesGroup_of_findBlock?_eq_none hnone]
  | case2 offset t b hsome bodyStart inner rest hinner =>
    have hnests : NestsGroup t :=
      nestsGroup_of_findBlock? hsome ⟨inner, rest, (Text.eq_of_cutAt? hinner).symm⟩
    simp [hnests]
  | case3 offset t b hsome bodyStart bodyEnd hinner hopen =>
    have hbody : Separated b.body := (separated_behind_opener ht hsome).of_isInfix ⟨[], _, rfl⟩
    have hcrosses : CrossesGroup t :=
      (crossesGroup_iff_of_findBlock? ht hsome (Text.cutAt?_eq_none.1 hinner)).2
        (.inl ((hasUnclosedEntry_iff hbody).1 hopen))
    simp [hcrosses]
  | case4 offset t b hsome bodyStart bodyEnd hinner hopen ih =>
    have hbody : Separated b.body := (separated_behind_opener ht hsome).of_isInfix ⟨[], _, rfl⟩
    have hafter : Separated b.after := ht.of_isInfix (suffix_of_findBlock? hsome).isInfix
    have hgroup := Text.cutAt?_eq_none.1 hinner
    rw [hasUnclosedEntry_iff hbody] at hopen
    rw [ih hafter, nestsGroup_iff_of_findBlock? ht hsome hgroup,
      crossesGroup_iff_of_findBlock? ht hsome hgroup]
    simp only [hopen, false_or]

/-! ## Templates -/

/-- A text without placeholders for the list is the same for every list. -/
theorem substitute_globalValue_eq_self {t : Text}
    (ht : ∀ name ∈ globalNames, ¬ placeholder name <:+: t) (mode : GroupMode) (n : Nat) :
    substitute (globalValue mode n) t = t :=
  substitute_eq_self_of_not_infix fun name _ hv => ht name (globalValue_eq_some hv).1

/-- What is refused is refused by the check, on the text in which the placeholders for the list are
filled in. -/
theorem render_eq_error_iff {config : Config} {groups : List Group} {t : Text} {err : TemplateError} :
    render config groups t = .error err ↔ config.useGroup = true ∧
      checkBlocks 0 (substitute (globalValue config.groupBy groups.length) t) = .error err := by
  rw [render]
  by_cases hgroup : config.useGroup = true
  · rw [if_pos hgroup]
    cases checkBlocks 0 (substitute (globalValue config.groupBy groups.length) t) with
    | error err' =>
      constructor
      · intro h
        exact ⟨hgroup, congrArg Except.error (Except.error.inj h)⟩
      · rintro ⟨-, h⟩
        exact congrArg Except.error (Except.error.inj h)
    | ok => exact ⟨fun h => (nomatch h), fun h => (nomatch h.2)⟩
  · rw [if_neg hgroup]
    exact ⟨fun h => (nomatch h), fun h => absurd h.1 hgroup⟩

/-- **Which templates are refused.** Let a template have no placeholder for the list and no two
overlapping markers. With group blocks on, it is refused exactly if its groups are nested or crossed,
whatever the groups are. -/
theorem render_error_iff {config : Config} (hconfig : config.useGroup = true) (groups : List Group)
    {t : Text} (hglobal : ∀ name ∈ globalNames, ¬ placeholder name <:+: t) (ht : Separated t) :
    (∃ err, render config groups t = .error err) ↔ NestsGroup t ∨ CrossesGroup t := by
  simp only [render_eq_error_iff, substitute_globalValue_eq_self hglobal, hconfig, true_and]
  exact checkBlocks_error_iff ht 0

/-- Two groups, the second one with an entry block that is closed too late. -/
theorem render_error_iff_late :
    let config : Config := { }
    let t : Text := "@\x7bgroup@ @\x7dgroup@ @\x7bgroup@ @\x7bentry@ @\x7dgroup@ @\x7dentry@".toList
    config.useGroup = true ∧ (∀ name ∈ globalNames, ¬ placeholder name <:+: t) ∧ Separated t ∧
      ∃ err, render config [] t = .error err := by
  intro config t
  have hconfig : config.useGroup = true := rfl
  have hglobal : ∀ name ∈ globalNames, Text.contains t (placeholder name) = false := by decide
  have ht : Separated t := by decide +kernel
  have hcrosses : CrossesGroup t :=
    ⟨"@\x7bgroup@ @\x7dgroup@ ".toList, [' '], [' '], " @\x7dentry@".toList, rfl,
      Text.contains_eq_false_iff.1 (by decide), Text.contains_eq_false_iff.1 (by decide)⟩
  have hplain := fun name hname => Text.contains_eq_false_iff.1 (hglobal name hname)
  exact ⟨hconfig, hplain, ht, (render_error_iff hconfig [] hplain ht).2 (.inr hcrosses)⟩

end PubList.Template
