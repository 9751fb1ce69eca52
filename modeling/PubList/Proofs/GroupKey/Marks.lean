import PubList.Proofs.GroupKey.Surroundings
import PubList.Proofs.Shrinking

/-!
# Group keys that are read as markup

A key that is part of a mark in some surroundings is read as markup in a template with these
surroundings. For the marker of an entry block, the template has the other marker as well, and there
are no entries. For a placeholder or a conditional, it has an entry block with the surroundings, and
there is one entry that has nothing to put in.

With a fresh character in place of the key, rendering then leaves the text as it is. So the law says
that it also stays with the key, but reading the key as markup makes the text shorter.
-/

namespace PubList.Template

open Text (IsWord isWordChar cutAt? dropMark? shift)

section Marks

variable {lookup : Text → Option Text} {k x y : Text}

/-! ## Keys that are part of the marker of a block -/

/-- Without entries a block disappears, so the key brings no block into a text. -/
theorem findBlock?_around (h : KeyIsData k) (hx : ∀ key, Fills (groupValue key 0 0) x x)
    (hy : Wordless y) (hsharp : '#' ∉ x ++ y) (hquestion : '?' ∉ x ++ y)
    (hplain : findBlock? .entry (x ++ '#' :: y) = none) :
    findBlock? .entry (x ++ (k ++ y)) = none := by
  have hlaw := h '#' 0 [] _ (freshKey_around hsharp (by simp)) (by simp [QuietKeys])
    (contains_around hquestion)
  have hrender (key : Text) :
      renderGroup key 0 [] (x ++ (placeholder "groupkey".toList ++ y)) =
        expandBlocks .entry (fun _ => []) (x ++ (key ++ y)) := by
    have hkeyed := substitute_around (hx key) hy
    rw [renderGroup, List.length_nil, hkeyed]
    rfl
  rw [hrender, hrender, List.singleton_append, expandBlocks_of_none _ hplain,
    flatMap_around hsharp] at hlaw
  refine Classical.byContradiction fun hfind => ?_
  have hlt := length_expandBlocks_lt hfind
  rw [hlaw] at hlt
  exact Nat.lt_irrefl _ hlt

/-- A beginning of the marker of a block opens nothing. -/
theorem fills_of_prefix_marker {z : Char} {m x : Text} (hz : isWordChar z = false)
    (hat : '@' ∉ z :: m) (h : x <+: placeholder (z :: m)) (hne : x ≠ placeholder (z :: m)) :
    Fills lookup x x := by
  rcases eq_of_prefix_placeholder h hne with rfl | ⟨x', rfl, hx⟩
  · exact Fills.nil
  · have hx' : Fills lookup x' x' := by
      cases x' with
      | nil => exact Fills.nil
      | cons a x' =>
        obtain ⟨rfl, -⟩ := List.cons_prefix_cons.1 hx
        refine Fills.of_break (fun hmem => hat (hx.subset hmem)) ⟨a, by simp, hz⟩
    exact Fills.atSign.append hx'

/-- An end of a mark opens nothing that is not opened by what follows. -/
theorem wordless_of_suffix_marker {m y t : Text} (hat : '@' ∉ m) (h : y <:+ placeholder m)
    (hne : y ≠ placeholder m) (ht : Wordless t) (hword : wordBeforeAt? t = none) :
    Wordless (y ++ t) := by
  rcases eq_of_suffix_placeholder h hne with rfl | ⟨y', rfl, hy⟩
  · exact ht
  · rw [List.append_assoc]
    refine wordless_append_of_not_mem (fun hmem => hat (hy.subset hmem)) ?_
    exact ⟨fun _ => hword, ht⟩

/-- A character that a mark does not have is in no beginning and in no end of it. -/
theorem not_mem_trimmed {m x y : Text} {z : Char} (hz : z ∉ m) (hx : x <+: m) (hy : y <:+ m) :
    z ∉ x ++ y := by
  rw [List.mem_append, not_or]
  exact ⟨fun hmem => hz (hx.subset hmem), fun hmem => hz (hy.subset hmem)⟩

/-- A mark does not occur in a proper part of it. -/
theorem not_infix_of_ne {m s : Text} (hs : s <:+: m) (hne : s ≠ m) : ¬ m <:+: s :=
  fun h => hne (hs.eq_of_length_le h.length_le)

/-- A key that is data is part of no opening marker of an entry block. -/
theorem clear_opener_of_keyIsData (h : KeyIsData k) : Clear BlockKind.entry.opener k := by
  refine Classical.byContradiction fun hnot => ?_
  obtain ⟨x, y, hfound, ⟨hx, hxne⟩, hy, hyne⟩ := exists_proper_parts (by decide) hnot
  have hxy {z : Char} (hz : z ∉ BlockKind.entry.opener)
      (hz' : z ∉ ' ' :: BlockKind.entry.closer) : z ∉ x ++ (y ++ ' ' :: BlockKind.entry.closer) := by
    rw [← List.append_assoc, List.mem_append, not_or]
    exact ⟨not_mem_trimmed hz hx hy, hz'⟩
  have hfills (key : Text) : Fills (groupValue key 0 0) x x :=
    fills_of_prefix_marker (z := '\x7b') (m := BlockKind.entry.name) (by decide) (by decide) hx hxne
  have hwordless : Wordless (y ++ ' ' :: BlockKind.entry.closer) :=
    wordless_of_suffix_marker (m := '\x7b' :: BlockKind.entry.name) (by decide) hy hyne
      (by decide) (by decide)
  -- With a fresh character there is no opening marker.
  have hplain : findBlock? .entry (x ++ '#' :: (y ++ ' ' :: BlockKind.entry.closer)) = none := by
    have hopen : cutAt? BlockKind.entry.opener
        (x ++ '#' :: (y ++ ' ' :: BlockKind.entry.closer)) = none := by
      rw [Text.cutAt?_eq_none]
      intro hocc
      rcases Text.infix_or_infix_of_not_mem (by decide) hocc with hocc | hocc
      · exact not_infix_of_ne hx.isInfix hxne hocc
      rcases Text.infix_or_infix_of_not_mem (by decide) hocc with hocc | hocc
      · exact not_infix_of_ne hy.isInfix hyne hocc
      · exact absurd (hocc.eq_of_length_le (by decide)) (by decide)
    rw [findBlock?, hopen]
    rfl
  have hnone := findBlock?_around h hfills hwordless (hxy (by decide) (by decide))
    (hxy (by decide) (by decide)) hplain
  -- With the key there is one, and the closing marker behind it completes the block.
  obtain ⟨⟨before, rest⟩, hcut⟩ := Option.isSome_iff_exists.1 (Text.contains_iff.2 hfound)
  have hopen := Text.cutAt?_append_of_some hcut (' ' :: BlockKind.entry.closer)
  have hclose : BlockKind.entry.closer <:+: rest ++ ' ' :: BlockKind.entry.closer :=
    ⟨rest ++ [' '], [], by simp⟩
  obtain ⟨⟨body, after⟩, hclose⟩ := Option.isSome_iff_exists.1 (Text.contains_iff.2 hclose)
  rw [List.append_assoc, List.append_assoc] at hopen
  rw [findBlock?, hopen] at hnone
  simp [hclose] at hnone

/-- A key that is data is part of no closing marker of an entry block. -/
theorem clear_closer_of_keyIsData (h : KeyIsData k) : Clear BlockKind.entry.closer k := by
  refine Classical.byContradiction fun hnot => ?_
  obtain ⟨x, y, hfound, ⟨hx, hxne⟩, hy, hyne⟩ := exists_proper_parts (by decide) hnot
  have hxy {z : Char} (hz : z ∉ BlockKind.entry.closer) (hz' : z ∉ BlockKind.entry.opener) :
      z ∉ BlockKind.entry.opener ++ x ++ y := by
    rw [List.append_assoc, List.mem_append, not_or]
    exact ⟨hz', not_mem_trimmed hz hx hy⟩
  have hfills (key : Text) : Fills (groupValue key 0 0) (BlockKind.entry.opener ++ x)
      (BlockKind.entry.opener ++ x) :=
    fills_opener.append <|
      fills_of_prefix_marker (z := '\x7d') (m := BlockKind.entry.name) (by decide) (by decide) hx hxne
  have hwordless : Wordless (y ++ []) :=
    wordless_of_suffix_marker (m := '\x7d' :: BlockKind.entry.name) (by decide) hy hyne trivial rfl
  rw [List.append_nil] at hwordless
  have hopen (t : Text) : cutAt? BlockKind.entry.opener (BlockKind.entry.opener ++ x ++ t) =
      some ([], x ++ t) := by
    rw [List.append_assoc, Text.cutAt?_mark_append]
  -- With a fresh character there is no closing marker behind the opening one.
  have hplain : findBlock? .entry (BlockKind.entry.opener ++ x ++ '#' :: y) = none := by
    have hclose : cutAt? BlockKind.entry.closer (x ++ '#' :: y) = none := by
      rw [Text.cutAt?_eq_none]
      intro hocc
      rcases Text.infix_or_infix_of_not_mem (by decide) hocc with hocc | hocc
      · exact not_infix_of_ne hx.isInfix hxne hocc
      · exact not_infix_of_ne hy.isInfix hyne hocc
    rw [findBlock?, hopen]
    simp [hclose]
  have hnone := findBlock?_around h hfills hwordless (hxy (by decide) (by decide))
    (hxy (by decide) (by decide)) hplain
  obtain ⟨⟨body, after⟩, hclose⟩ := Option.isSome_iff_exists.1 (Text.contains_iff.2 hfound)
  rw [findBlock?, hopen] at hnone
  simp [hclose] at hnone

/-! ## Keys that are part of a placeholder -/

/-- A group with one entry renders an entry block around the key as the entry renders the key in its
surroundings. -/
theorem renderGroup_around (e : Entry) {key x y : Text} (hx : Fills (groupValue key 0 1) x x)
    (hy : Wordless (y ++ BlockKind.entry.closer))
    (hfind : findBlock? .entry (marked .entry (x ++ (key ++ y))) = some ⟨[], x ++ (key ++ y), []⟩) :
    renderGroup key 0 [e] (BlockKind.entry.opener ++ x ++
        (placeholder "groupkey".toList ++ (y ++ BlockKind.entry.closer))) =
      renderEntry e (x ++ (key ++ y)) := by
  have hkeyed : substitute (groupValue key 0 1) (BlockKind.entry.opener ++ x ++
      (placeholder "groupkey".toList ++ (y ++ BlockKind.entry.closer))) =
        marked .entry (x ++ (key ++ y)) := by
    rw [substitute_around (fills_opener.append hx) hy, marked]
    simp
  rw [renderGroup, List.length_singleton, hkeyed, expandBlocks_of_some _ hfind,
    expandBlocks_of_none _ (findBlock?_eq_none (Passes.nil _))]
  simp

/-- Texts that can stand around the key in an entry block: the pass for the group puts the key in
between them, and with the character `#` in its place an entry leaves them as they are. -/
structure Surrounds (x y : Text) : Prop where
  fills : ∀ key, Fills (groupValue key 0 1) x x
  closer : Wordless (y ++ BlockKind.entry.closer)
  wordless : Wordless (x ++ '#' :: y)
  passes : PassesCloser .entry (x ++ '#' :: y)
  sharp : '#' ∉ x ++ y
  question : '?' ∉ x ++ y

/-- The block around a key that is data has the key in its surroundings as its body. So an entry
without values leaves it as it is, as it does with a fresh character in place of the key. -/
theorem renderEntry_around (h : KeyIsData k) {e : Entry} (hkey : e.key = [])
    (hfields : ∀ field ∈ e.fields, '#' ∉ field.1 ∧ '#' ∉ field.2) (hxy : Surrounds x y) :
    renderEntry e (x ++ (k ++ y)) = x ++ (k ++ y) := by
  have hmarkers {z : Char} (hz : z ∉ x ++ y) (hz' : z ∉ BlockKind.entry.opener)
      (hz'' : z ∉ BlockKind.entry.closer) :
      z ∉ BlockKind.entry.opener ++ x ++ (y ++ BlockKind.entry.closer) := by
    simp only [List.mem_append, not_or] at hz ⊢
    exact ⟨⟨hz', hz.1⟩, hz.2, hz''⟩
  have hlaw := h '#' 0 [e] _
    (freshKey_around (hmarkers hxy.sharp (by decide) (by decide)) (by simpa [hkey] using hfields))
    (by simp [QuietKeys, hkey, Text.contains_eq_false_iff, Conditional.opener])
    (contains_around (hmarkers hxy.question (by decide) (by decide)))
  have hfindChar : findBlock? .entry (marked .entry (x ++ '#' :: y)) =
      some ⟨[], x ++ '#' :: y, []⟩ := by
    simpa using findBlock?_marked (Passes.nil _) hxy.passes []
  have hfindKey : findBlock? .entry (marked .entry (x ++ (k ++ y))) =
      some ⟨[], x ++ (k ++ y), []⟩ := by
    have hflat := findBlock?_flatMap (c := '#') (by decide) (clear_opener_of_keyIsData h)
      (clear_closer_of_keyIsData h) (marked .entry (x ++ '#' :: y))
    have hopen : '#' ∉ BlockKind.entry.opener := by decide
    have hclose : '#' ∉ BlockKind.entry.closer := by decide
    have htext : (marked .entry (x ++ '#' :: y)).flatMap (replace '#' k) =
        marked .entry (x ++ (k ++ y)) := by
      rw [marked, List.flatMap_append, List.flatMap_append, flatMap_replace_of_not_mem hopen,
        flatMap_replace_of_not_mem hclose, flatMap_around hxy.sharp, marked]
    rw [hfindChar, htext] at hflat
    simpa [flatMap_around hxy.sharp] using hflat
  have hquestion : '?' ∉ x ++ '#' :: y := by
    have hfree := hxy.question
    simp only [List.mem_append, List.mem_cons, not_or] at hfree ⊢
    exact ⟨hfree.1, by decide, hfree.2⟩
  rw [renderGroup_around e (hxy.fills k) hxy.closer hfindKey,
    renderGroup_around e (hxy.fills ['#']) hxy.closer hfindChar, List.singleton_append,
    renderEntry_of_wordless hxy.wordless hquestion, flatMap_around hxy.sharp] at hlaw
  exact hlaw

/-- A word character can stand on either side of the key, behind and in front of an `@`. -/
theorem surrounds_word (hx : x = [] ∨ x = "@x".toList) (hy : y = [] ∨ y = "x@".toList) :
    Surrounds x y where
  fills key := by
    rcases hx with rfl | rfl
    · exact Fills.nil
    · exact Fills.atSign.append (Fills.of_head (by decide) (groupValue_of_head (by decide) key 0 1))
  closer := by
    rcases hy with rfl | rfl <;> decide
  wordless := by
    rcases hx with rfl | rfl <;> rcases hy with rfl | rfl <;> decide
  passes := by
    have hleft : Skips ('\x7d' :: BlockKind.entry.name) x := by
      rcases hx with rfl | rfl
      · exact Skips.nil _
      · exact (Skips.atSign (by decide) _).append
          (Skips.of_not_mem (s := ['x']) (by decide) (by decide))
    have hright : Skips ('\x7d' :: BlockKind.entry.name) ('#' :: y) := by
      rcases hy with rfl | rfl
      · exact Skips.of_not_mem (by decide) (by decide)
      · exact (Skips.of_not_mem (s := ['#', 'x']) (by decide) (by decide)).append
          (Skips.atSign (by decide) _)
    exact (hleft.append hright).passes
  sharp := by
    rcases hx with rfl | rfl <;> rcases hy with rfl | rfl <;> decide
  question := by
    rcases hx with rfl | rfl <;> rcases hy with rfl | rfl <;> decide

/-- An entry that knows one name, with nothing to put in for it. -/
def hollow (name : Text) : Entry := ⟨[], [(name, [])]⟩

theorem get?_hollow (name : Text) : (hollow name).get? name = some [] := by
  rw [Entry.get?, hollow]
  split
  · rfl
  · simp

theorem eq_nil_of_get?_hollow {name n v : Text} (h : (hollow name).get? n = some v) : v = [] := by
  rw [Entry.get?, hollow] at h
  split at h
  · exact (Option.some.inj h).symm
  · rw [List.lookup_singleton, Option.ite_none_right_eq_some] at h
    exact (Option.some.inj h.2).symm

/-- A key that is data completes no placeholder, with or without a word character on its sides. -/
theorem not_placeholder_of_keyIsData (h : KeyIsData k) (hx : x = [] ∨ x = "@x".toList)
    (hy : y = [] ∨ y = "x@".toList) {name : Text} (hname : IsWord name) (u v : Text) :
    x ++ (k ++ y) ≠ u ++ '@' :: (name ++ '@' :: v) := by
  intro heq
  have hsharp : '#' ∉ name := not_mem_of_isWord hname (by decide)
  have hrender : renderEntry (hollow name) (x ++ (k ++ y)) = x ++ (k ++ y) :=
    renderEntry_around h rfl (by simpa [hollow] using hsharp) (surrounds_word hx hy)
  have hnone := (of_renderEntry_eq_self (fun _ _ => eq_nil_of_get?_hollow) hrender).2 u _ name heq
    (wordBeforeAt?_append hname)
  rw [get?_hollow] at hnone
  cases hnone

/-- A key that is data is part of no placeholder. -/
theorem clear_word_of_keyIsData (h : KeyIsData k) {name : Text} (hname : IsWord name) :
    Clear (placeholder name) k := by
  refine Classical.byContradiction fun hnot => ?_
  have hword {s : Text} (hne : s ≠ []) (hs : ∀ c ∈ s, c = 'x' ∨ c ∈ name) : IsWord s := by
    refine ⟨hne, fun c hc => ?_⟩
    rcases hs c hc with rfl | hc
    · decide
    · exact hname.2 c hc
  -- What stands in the mark on the sides of the key is replaced by one word character.
  rcases cases_of_not_clear hnot with ⟨a, b, hk⟩ | ⟨a, q, y, hk, hq⟩ | ⟨x, p, b, hk, hp⟩ | ⟨x, y, hk⟩
  · refine not_placeholder_of_keyIsData h (.inl rfl) (.inl rfl) hname a b ?_
    simp [hk, placeholder]
  · have hw : IsWord (q ++ ['x']) := by
      refine hword (by simp) fun c hc => ?_
      rcases List.mem_append.1 hc with hc | hc
      · exact .inr (by simp [hq, hc])
      · exact .inl (List.mem_singleton.1 hc)
    refine not_placeholder_of_keyIsData h (.inl rfl) (.inr rfl) hw a [] ?_
    simp [hk]
  · have hw : IsWord ('x' :: p) := by
      refine hword (by simp) fun c hc => ?_
      rcases List.mem_cons.1 hc with hc | hc
      · exact .inl hc
      · exact .inr (by simp [hp, hc])
    refine not_placeholder_of_keyIsData h (.inr rfl) (.inl rfl) hw [] b ?_
    simp [hk]
  · have hw : IsWord ('x' :: (k ++ ['x'])) := by
      refine hword (by simp) fun c hc => ?_
      rcases List.mem_cons.1 hc with hc | hc
      · exact .inl hc
      rcases List.mem_append.1 hc with hc | hc
      · exact .inr (by simp [← hk, hc])
      · exact .inl (List.mem_singleton.1 hc)
    refine not_placeholder_of_keyIsData h (.inr rfl) (.inr rfl) hw [] [] ?_
    simp

/-! ## Keys that open a conditional -/

/-- Behind `@?`, a field with what follows it in the head of a conditional. -/
def IsHead (field m : Text) : Prop := m = field ++ ['@'] ∨ ∃ op : Operator, m = field ++ op.symbol

/-- The end of a head and the closing mark, whatever stands in between, make a conditional. -/
theorem read?_head {field m : Text} (hfield : IsWord field) (hm : IsHead field m) (s : Text) :
    Conditional.read? (m ++ (s ++ '@' :: placeholder (';' :: field))) ≠ none := by
  have hclose (t : Text) : ∃ parts, cutAt? (Conditional.closer field)
      (t ++ placeholder (';' :: field)) = some parts :=
    Option.isSome_iff_exists.1 (Text.contains_iff.2 ⟨t, [], List.append_nil _⟩)
  rcases hm with rfl | ⟨op, rfl⟩
  · obtain ⟨htake, hdrop⟩ := span_word (t := '@' :: (s ++ '@' :: placeholder (';' :: field))) hfield
      (by simpa using Text.isWordChar_at)
    obtain ⟨parts, hparts⟩ := hclose (s ++ ['@'])
    rw [List.append_assoc, List.singleton_append] at hparts
    rw [List.append_assoc, List.singleton_append]
    simp [Conditional.read?, htake, hdrop, hfield.1, Conditional.readTest?, hparts]
  · obtain ⟨a, symbol, hsymbol, ha, hword⟩ := op.exists_symbol_eq_cons
    obtain ⟨htake, hdrop⟩ := span_word (t := op.symbol ++ (s ++ '@' :: placeholder (';' :: field)))
      hfield (by simpa [hsymbol] using hword)
    have hsplit := op.split?_symbol_append (s ++ '@' :: placeholder (';' :: field))
    -- The expected text ends at the next `@`, which leaves the closing mark.
    have hexpected : Text.contains (s ++ ['@']) ['@'] = true :=
      Text.contains_iff.2 ⟨s, [], List.append_nil _⟩
    obtain ⟨⟨expected, rest⟩, hcut⟩ := Option.isSome_iff_exists.1 hexpected
    have hcut' := Text.cutAt?_append_of_some hcut (placeholder (';' :: field))
    obtain ⟨parts, hparts⟩ := hclose rest
    rw [List.append_assoc, List.singleton_append] at hcut'
    rw [hsymbol, List.cons_append] at hsplit hdrop htake
    rw [List.append_assoc, hsymbol, List.cons_append]
    simp [Conditional.read?, htake, hdrop, hfield.1, Conditional.readTest?, ha, hsplit,
      Text.cutAtChar?, hcut', hparts]

/-- An end of a head is a text without `@`, or such a text with an `@` behind it. -/
theorem exists_of_suffix_head {field m y : Text} (hfield : IsWord field) (hm : IsHead field m)
    (hy : y <:+ m) :
    ∃ z, ('@' ∉ z ∧ '#' ∉ z ∧ '?' ∉ z) ∧ (y = z ∨ y = z ++ ['@']) := by
  have hword {c : Char} (hc : isWordChar c = false) : c ∉ field := not_mem_of_isWord hfield hc
  have hfree {z : Text} (hz : z <:+ field) : '@' ∉ z ∧ '#' ∉ z ∧ '?' ∉ z :=
    ⟨fun h => hword (by decide) (hz.subset h), fun h => hword (by decide) (hz.subset h),
      fun h => hword (by decide) (hz.subset h)⟩
  rcases hm with rfl | ⟨op, rfl⟩
  · rcases List.suffix_concat_iff.1 hy with rfl | ⟨z, rfl, hz⟩
    · exact ⟨[], by simp, .inl rfl⟩
    · exact ⟨z, hfree hz, .inr rfl⟩
  · have hsymbol : '@' ∉ op.symbol ∧ '#' ∉ op.symbol ∧ '?' ∉ op.symbol := by
      cases op <;> decide
    have hmem {c : Char} (hc : isWordChar c = false) (hc' : c ∉ op.symbol) : c ∉ y := by
      intro h
      rcases List.mem_append.1 (hy.subset h) with h | h
      · exact hword hc h
      · exact hc' h
    exact ⟨y, ⟨hmem (by decide) hsymbol.1, hmem (by decide) hsymbol.2.1,
      hmem (by decide) hsymbol.2.2⟩, .inl rfl⟩

section Tail

variable {field z : Text}

/-- The closing mark of a conditional behind the end of a head opens no placeholder. -/
theorem wordless_tail (hfield : IsWord field) (hz : '@' ∉ z) (hy : y = z ∨ y = z ++ ['@']) {t : Text}
    (ht : Wordless ('@' :: t)) :
    Wordless (y ++ ('@' :: (placeholder (';' :: field) ++ t))) := by
  have hat : '@' ∉ ';' :: field := by simp [not_at_mem_of_isWord hfield]
  have hmark : Wordless ('@' :: (placeholder (';' :: field) ++ t)) := by
    rw [placeholder_append]
    exact ⟨fun _ => wordBeforeAt?_at _, fun _ => wordBeforeAt?_append_of_break hat
      ⟨';', by simp, by decide⟩ _, wordless_append_of_not_mem hat ht⟩
  rcases hy with rfl | rfl
  · exact wordless_append_of_not_mem hz hmark
  · rw [List.append_assoc]
    exact wordless_append_of_not_mem hz ⟨fun _ => wordBeforeAt?_at _, hmark⟩

/-- A search for the closing marker of a block passes over it. -/
theorem skips_tail (hfield : IsWord field) (hz : '@' ∉ z) (hy : y = z ∨ y = z ++ ['@']) :
    Skips ('\x7d' :: BlockKind.entry.name) ('#' :: (y ++ '@' :: placeholder (';' :: field))) := by
  have hat : '@' ∉ '#' :: z := by simp [hz]
  have hfree : Skips ('\x7d' :: BlockKind.entry.name) ('#' :: z) :=
    Skips.of_not_mem hat (by simp)
  have hmark : Skips ('\x7d' :: BlockKind.entry.name) ('@' :: placeholder (';' :: field)) :=
    (Skips.atSign (by decide) _).append <|
      Skips.mark (by decide) (by decide) (by simp [not_at_mem_of_isWord hfield]) (by simp)
  rcases hy with rfl | rfl
  · exact hfree.append hmark
  · rw [List.append_assoc]
    exact hfree.append ((Skips.atSign (by decide) _).append hmark)

/-- An `@` can stand in front of the key, and the end of a head with the closing mark behind it. -/
theorem surrounds_tail (hfield : IsWord field) (hz : '@' ∉ z ∧ '#' ∉ z ∧ '?' ∉ z)
    (hx : x = [] ∨ x = ['@']) (hy : y = z ∨ y = z ++ ['@']) :
    Surrounds x (y ++ '@' :: placeholder (';' :: field)) := by
  obtain ⟨hat, hsharp, hquestion⟩ := hz
  have hfree {c : Char} (hc : isWordChar c = false) (hcat : c ≠ '@') (hcz : c ∉ z)
      (hcmark : c ≠ ';') : c ∉ x ++ (y ++ '@' :: placeholder (';' :: field)) := by
    have hcfield : c ∉ field := not_mem_of_isWord hfield hc
    rcases hx with rfl | rfl <;> rcases hy with rfl | rfl <;>
      simp [placeholder, hcat, hcz, hcmark, hcfield]
  constructor
  case fills =>
    intro key
    rcases hx with rfl | rfl
    · exact Fills.nil
    · exact Fills.atSign
  case closer =>
    have hcloser : Wordless ('@' :: BlockKind.entry.closer) := by decide
    simpa using wordless_tail hfield hat hy hcloser
  case wordless =>
    have hend : Wordless ['@'] := by decide
    have htail : Wordless (y ++ '@' :: placeholder (';' :: field)) := by
      simpa using wordless_tail hfield hat hy hend
    have hchar : Wordless ('#' :: (y ++ '@' :: placeholder (';' :: field))) :=
      ⟨fun ha => absurd ha (by decide), htail⟩
    rcases hx with rfl | rfl
    · exact hchar
    · exact ⟨fun _ => wordBeforeAt?_append_of_break (s := ['#']) (by decide) (by decide) _, hchar⟩
  case passes =>
    have htail := skips_tail hfield hat hy
    rcases hx with rfl | rfl
    · exact htail.passes
    · exact ((Skips.atSign (by decide) _).append htail).passes
  case sharp => exact hfree (by decide) (by decide) hsharp (by decide)
  case question => exact hfree (by decide) (by decide) hquestion (by decide)

end Tail

/-- The closing mark behind a key makes a conditional of a head whose `?` the key has. A key that is
data has the `?` of no head. -/
theorem not_opens_of_keyIsData (h : KeyIsData k) {before after t : Text}
    (hk : k = before ++ '?' :: after) (hbefore : before = [] ∨ before.getLast? = some '@') :
    ¬ Opens (after ++ t) := by
  rintro ⟨field, rest, hfield, htext⟩
  obtain ⟨m, hm, hmrest⟩ : ∃ m, IsHead field m ∧ after ++ t = m ++ rest := by
    rcases htext with htext | ⟨op, htext⟩
    · exact ⟨field ++ ['@'], .inl rfl, by simp [htext]⟩
    · exact ⟨field ++ op.symbol, .inr ⟨op, rfl⟩, by simp [htext]⟩
  -- What the head needs of the text behind the key is an end of the head.
  obtain ⟨y₀, s, hy₀, hsuffix⟩ : ∃ y₀ s, after ++ y₀ = m ++ s ∧ y₀ <:+ m := by
    rcases List.append_eq_append_iff.1 hmrest with ⟨w, rfl, -⟩ | ⟨w, rfl, -⟩
    · exact ⟨w, [], by simp, List.suffix_append after w⟩
    · exact ⟨[], w, by simp, List.nil_suffix⟩
  obtain ⟨z, hfree, hz⟩ := exists_of_suffix_head hfield hm hsuffix
  -- What it needs of the text in front of the key is an `@`, or nothing.
  obtain ⟨x, u, hx, hxu⟩ : ∃ x u, (x = [] ∨ x = ['@']) ∧ x ++ before = u ++ ['@'] := by
    rcases hbefore with rfl | hlast
    · exact ⟨['@'], [], .inr rfl, rfl⟩
    · obtain ⟨u, hu⟩ := List.getLast?_eq_some_iff.1 hlast
      exact ⟨[], u, .inl rfl, hu⟩
  have hrender := renderEntry_around h (e := ⟨[], []⟩) rfl (by simp)
    (surrounds_tail hfield hfree hx hz)
  have hempty : ∀ n v, Entry.get? ⟨[], []⟩ n = some v → v = [] := by
    intro n v hv
    rw [Entry.get?, List.lookup_nil, Option.ite_none_right_eq_some] at hv
    exact (Option.some.inj hv.2).symm
  refine read?_head hfield hm s ((of_renderEntry_eq_self hempty hrender).1 u _ ?_)
  have hopen : x ++ k = u ++ '@' :: '?' :: after := by
    rw [hk, ← List.append_assoc, hxu, List.append_assoc, List.singleton_append]
  rw [← List.append_assoc m, ← hy₀, ← List.append_assoc x, hopen]
  simp

end Marks

end PubList.Template
