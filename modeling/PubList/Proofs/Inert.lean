import PubList.Proofs.Replacement
import PubList.Proofs.Resolution
import PubList.Template.Render

/-!
# Texts that complete no mark

Rendering reads the text that is put in for a group again: for blocks, for placeholders and for
conditionals. A text is `Inert` if it is not part of any of these, whatever stands around it.

Rendering with such a text in place of a character follows from rendering with the character
itself. Each scanner has its own lemma: `cutAt?_flatMap`, `expandBlocks_flatMap`,
`substitute_flatMap_text` and `unread_flatMap`. All of them rest on `prefix_of_prefix_flatMap`: a
mark at the start of the longer text stands at the start of the shorter one.
-/

namespace PubList.Template

open Text (IsWord isWordChar cutAt? dropMark? shift)

/-! ## Marks that are not completed -/

/-- An occurrence of the mark `m` in a text with `k` in it lies in what stands in front of `k` or in
what follows it. -/
def Clear (m k : Text) : Prop :=
  ∀ x y a b, x ++ k ++ y = a ++ m ++ b → a ++ m <+: x ∨ m ++ b <:+ y

/-- Behind `@?`, the text is the rest of the head of a conditional. -/
def Opens (t : Text) : Prop :=
  ∃ field rest, IsWord field ∧
    (t = field ++ '@' :: rest ∨ ∃ op : Operator, t = field ++ (op.symbol ++ rest))

/-- A text that is part of no mark, whatever stands around it: no marker of an entry block, no
placeholder, and no head of a conditional whose `?` it has. -/
structure Inert (k : Text) : Prop where
  opener : Clear BlockKind.entry.opener k
  closer : Clear BlockKind.entry.closer k
  word : ∀ name, IsWord name → Clear (placeholder name) k
  question : ∀ before after t, k = before ++ '?' :: after →
    before = [] ∨ before.getLast? = some '@' → ¬ Opens (after ++ t)

/-- No mark begins in a text that completes none. -/
theorem Clear.not_begins {m k : Text} (h : Clear m k) (hm : m ≠ []) {u v : Text} (hk : k = u ++ v)
    (hv : v ≠ []) (y : Text) : ¬ m <+: v ++ y := by
  rintro ⟨b, hb⟩
  have heq : [] ++ k ++ y = u ++ m ++ b := by simp [hk, hb]
  rcases h [] y u b heq with hx | hy
  · have hnil : u ++ m = [] := List.prefix_nil.1 hx
    exact hm (List.append_eq_nil_iff.1 hnil).2
  · rw [hb] at hy
    have hlength := hy.length_le
    rw [List.length_append] at hlength
    have hvlength := List.length_pos_iff.2 hv
    omega

theorem Inert.ne_nil {k : Text} (h : Inert k) : k ≠ [] := by
  rintro rfl
  -- An empty text completes a placeholder of which one half stands on either side.
  rcases h.word ['x'] (by decide) ['@', 'x'] ['@'] [] [] rfl with hx | hy
  · have hlength := hx.length_le
    simp [placeholder] at hlength
  · have hlength := hy.length_le
    simp [placeholder] at hlength

theorem opens_of_read? {t rest : Text} {c : Conditional}
    (h : Conditional.read? t = some (c, rest)) : Opens t := by
  have hsplit := List.takeWhile_append_dropWhile (p := isWordChar) (l := t)
  have hall := List.all_eq_true.1 (List.all_takeWhile (p := isWordChar) (l := t))
  simp only [Conditional.read?] at h
  split at h
  · cases h
  · next hne =>
    simp only [Option.bind_eq_bind, Option.bind_eq_some_iff] at h
    obtain ⟨⟨test, afterHead⟩, htest, -⟩ := h
    refine ⟨t.takeWhile isWordChar, ?_⟩
    unfold Conditional.readTest? at htest
    split at htest
    · next rest' hrest =>
      refine ⟨rest', ⟨hne, hall⟩, .inl ?_⟩
      rw [← hrest, hsplit]
    · simp only [Option.bind_eq_bind, Option.bind_eq_some_iff] at htest
      obtain ⟨⟨op, t'⟩, hop, -⟩ := htest
      refine ⟨t', ⟨hne, hall⟩, .inr ⟨op, ?_⟩⟩
      rw [← Conditional.eq_of_split? hop, hsplit]

/-! ## A text in place of a character -/

/-- Puts `k` in place of the character `c`, and keeps every other character. -/
def replace (c : Char) (k : Text) (a : Char) : Text := if a = c then k else [a]

@[simp] theorem replace_self (c : Char) (k : Text) : replace c k c = k := if_pos rfl

theorem replace_of_ne {c a : Char} (h : a ≠ c) (k : Text) : replace c k a = [a] := if_neg h

theorem flatMap_replace_of_not_mem {c : Char} {t : Text} (h : c ∉ t) (k : Text) :
    t.flatMap (replace c k) = t :=
  flatMap_eq_self fun a ha => replace_of_ne (fun hac : a = c => h (hac ▸ ha)) k

section Replace

variable {c : Char} {k : Text}

theorem flatMap_replace_cons_self (t : Text) :
    (c :: t).flatMap (replace c k) = k ++ t.flatMap (replace c k) := by
  rw [List.flatMap_cons, replace_self]

theorem flatMap_replace_cons_of_ne {a : Char} (h : a ≠ c) (t : Text) :
    (a :: t).flatMap (replace c k) = a :: t.flatMap (replace c k) := by
  rw [List.flatMap_cons, replace_of_ne h, List.singleton_append]

/-- A mark at the start of a text with `k` in place of `c` stands at the start of the text with `c`,
unless that text begins with `c`. -/
theorem prefix_of_prefix_flatMap {m : Text} (hclear : Clear m k) {a : Char} (ha : a ≠ c) {s : Text}
    (h : m <+: (a :: s).flatMap (replace c k)) : m <+: a :: s := by
  by_cases hmem : c ∈ a :: s
  · obtain ⟨u, v, heq, hu⟩ := List.eq_append_cons_of_mem hmem
    rw [heq] at h ⊢
    obtain ⟨b, hb⟩ := h
    rw [List.flatMap_append, flatMap_replace_cons_self, flatMap_replace_of_not_mem hu] at hb
    rcases hclear u (v.flatMap (replace c k)) [] b (by simp [hb]) with hx | hy
    · exact hx.trans (List.prefix_append u _)
    · -- The mark would have to begin behind `k`, but it begins where the text does.
      have hlength := hy.length_le
      rw [hb, List.length_append, List.length_append] at hlength
      have hnil : u = [] := List.length_eq_zero_iff.1 (by omega)
      rw [hnil, List.nil_append] at heq
      exact absurd (List.cons.inj heq).1 ha
  · rwa [flatMap_replace_of_not_mem hmem] at h

/-! ## Searching -/

/-- A search finds a mark where it is found with `c` in place of `k`. -/
theorem cutAt?_flatMap {m : Text} (hm : m ≠ []) (hc : c ∉ m) (hclear : Clear m k) (s : Text) :
    cutAt? m (s.flatMap (replace c k)) =
      (cutAt? m s).map fun (before, after) =>
        (before.flatMap (replace c k), after.flatMap (replace c k)) := by
  obtain ⟨a₀, m₀, hm₀⟩ := List.exists_cons_of_ne_nil hm
  induction s with
  | nil => simp [cutAt?, hm₀, dropMark?]
  | cons a s ih =>
    by_cases ha : a = c
    · subst ha
      have hkey : cutAt? m (k ++ s.flatMap (replace a k)) =
          shift k (cutAt? m (s.flatMap (replace a k))) :=
        Text.cutAt?_append_of_forall fun u v hk hv =>
          Text.dropMark?_eq_none (hclear.not_begins hm hk hv _)
      have hchar : cutAt? m (a :: s) = shift [a] (cutAt? m s) := by
        refine Text.cutAt?_cons_of_none (Text.dropMark?_eq_none fun hpre => hc ?_)
        rw [hm₀] at hpre ⊢
        rw [(List.cons_prefix_cons.1 hpre).1]
        exact List.mem_cons_self
      rw [flatMap_replace_cons_self, hkey, hchar, ih]
      cases cutAt? m s with
      | none => rfl
      | some parts =>
        obtain ⟨before, after⟩ := parts
        simp
    · rw [flatMap_replace_cons_of_ne ha]
      cases hdrop : dropMark? m (a :: s) with
      | some rest =>
        have htext : a :: s = m ++ rest := Text.dropMark?_eq_some.1 hdrop
        rw [← flatMap_replace_cons_of_ne ha, htext, List.flatMap_append,
          flatMap_replace_of_not_mem hc, Text.cutAt?_mark_append, Text.cutAt?_mark_append]
        rfl
      | none =>
        have hdrop' : dropMark? m (a :: s.flatMap (replace c k)) = none := by
          refine Text.dropMark?_eq_none fun hpre => ?_
          rw [← flatMap_replace_cons_of_ne ha] at hpre
          obtain ⟨rest, hrest⟩ := prefix_of_prefix_flatMap hclear ha hpre
          rw [Text.dropMark?_eq_some.2 hrest.symm] at hdrop
          cases hdrop
        rw [Text.cutAt?_cons_of_none hdrop', Text.cutAt?_cons_of_none hdrop, ih]
        cases cutAt? m s with
        | none => rfl
        | some parts =>
          obtain ⟨before, after⟩ := parts
          simp [flatMap_replace_cons_of_ne ha]

section Blocks

variable {kind : BlockKind}

/-- Blocks are found where they are found with `c` in place of `k`. -/
theorem findBlock?_flatMap (hc : c ∉ kind.opener ∧ c ∉ kind.closer)
    (hopener : Clear kind.opener k) (hcloser : Clear kind.closer k) (s : Text) :
    findBlock? kind (s.flatMap (replace c k)) =
      (findBlock? kind s).map fun b => ⟨b.before.flatMap (replace c k),
        b.body.flatMap (replace c k), b.after.flatMap (replace c k)⟩ := by
  have hne : kind.opener ≠ [] ∧ kind.closer ≠ [] := by cases kind <;> decide
  simp only [findBlock?, cutAt?_flatMap hne.1 hc.1 hopener]
  cases cutAt? kind.opener s with
  | none => rfl
  | some parts =>
    obtain ⟨before, rest⟩ := parts
    simp only [Option.map_some, Option.bind_eq_bind, Option.bind_some,
      cutAt?_flatMap hne.2 hc.2 hcloser]
    cases cutAt? kind.closer rest with
    | none => rfl
    | some parts => rfl

theorem expandBlocks_flatMap (hc : c ∉ kind.opener ∧ c ∉ kind.closer)
    (hopener : Clear kind.opener k) (hcloser : Clear kind.closer k) {expand expand' : Text → Text}
    {s : Text} (hexpand : ∀ body, body <:+: s →
      expand' (body.flatMap (replace c k)) = (expand body).flatMap (replace c k)) :
    expandBlocks kind expand' (s.flatMap (replace c k)) =
      (expandBlocks kind expand s).flatMap (replace c k) := by
  fun_induction expandBlocks kind expand s with
  | case1 s hfind =>
    refine expandBlocks_of_none expand' ?_
    rw [findBlock?_flatMap hc hopener hcloser, hfind, Option.map_none]
  | case2 s b hfind ih =>
    have hfind' := findBlock?_flatMap hc hopener hcloser s
    rw [hfind, Option.map_some] at hfind'
    have htext : s = _ := eq_text_of_findBlock? hfind
    have hbody : b.body <:+: s :=
      ⟨b.before ++ kind.opener, kind.closer ++ b.after, by rw [htext]; simp [Block.text]⟩
    have hafter : b.after <:+: s :=
      ⟨b.before ++ kind.opener ++ b.body ++ kind.closer, [], by rw [htext]; simp [Block.text]⟩
    rw [expandBlocks_of_some expand' hfind', hexpand b.body hbody,
      ih fun body h => hexpand body (h.trans hafter), List.flatMap_append, List.flatMap_append]

end Blocks

/-! ## Substitution -/

section Words

variable (hword : ∀ name, IsWord name → Clear (placeholder name) k) (hat : c ≠ '@')
  (hc : isWordChar c = false)

include hword hat hc

theorem wordBeforeAt?_flatMap (s : Text) :
    wordBeforeAt? (s.flatMap (replace c k)) = wordBeforeAt? s := by
  refine Option.ext fun name => ?_
  rw [wordBeforeAt?_iff, wordBeforeAt?_iff]
  refine and_congr_right fun hname => ⟨?_, ?_⟩
  · rintro ⟨rest, hrest⟩
    have hpre : placeholder name <+: ('@' :: s).flatMap (replace c k) := by
      refine ⟨rest, ?_⟩
      rw [flatMap_replace_cons_of_ne (Ne.symm hat), hrest, placeholder_append]
    obtain ⟨rest', hrest'⟩ := prefix_of_prefix_flatMap (hword name hname) (Ne.symm hat) hpre
    rw [placeholder_append] at hrest'
    exact ⟨rest', (List.cons.inj hrest').2.symm⟩
  · rintro ⟨rest, rfl⟩
    have hcname : c ∉ name := not_mem_of_isWord hname hc
    refine ⟨rest.flatMap (replace c k), ?_⟩
    rw [List.flatMap_append, flatMap_replace_of_not_mem hcname,
      flatMap_replace_cons_of_ne (Ne.symm hat)]

/-- Placeholders are found where they are found with `c` in place of `k`. -/
theorem substitute_flatMap_text {lookup : Text → Option Text}
    (hvalue : ∀ name v, lookup name = some v → c ∉ v) (s : Text) :
    substitute lookup (s.flatMap (replace c k)) =
      (substitute lookup s).flatMap (replace c k) := by
  fun_induction substitute lookup s with
  | case1 => simp
  | case2 t name hname v hv ih =>
    obtain ⟨hname', rest, rfl⟩ := wordBeforeAt?_eq_some hname
    have hcname : c ∉ placeholder name := by
      have hmem : c ∉ name := not_mem_of_isWord hname' hc
      simp [placeholder, hat, hmem]
    rw [drop_word_append] at ih ⊢
    rw [← placeholder_append, List.flatMap_append, flatMap_replace_of_not_mem hcname,
      substitute_placeholder lookup hname' hv, ih, List.flatMap_append,
      flatMap_replace_of_not_mem (hvalue name v hv)]
  | case3 t name hname hv ih =>
    have hclosed : Closed lookup (t.flatMap (replace c k)) := by
      intro name' hname'
      rw [wordBeforeAt?_flatMap hword hat hc, hname] at hname'
      cases hname'
      exact hv
    rw [flatMap_replace_cons_of_ne (Ne.symm hat), substitute_at_of_closed hclosed, ih,
      flatMap_replace_cons_of_ne (Ne.symm hat)]
  | case4 t hname ih =>
    have hclosed : Closed lookup (t.flatMap (replace c k)) := by
      refine closed_of_eq_none ?_
      rw [wordBeforeAt?_flatMap hword hat hc, hname]
    rw [flatMap_replace_cons_of_ne (Ne.symm hat), substitute_at_of_closed hclosed, ih,
      flatMap_replace_cons_of_ne (Ne.symm hat)]
  | case5 a t ha ih =>
    by_cases hac : a = c
    · subst hac
      have hkey : substitute lookup (k ++ t.flatMap (replace a k)) =
          k ++ substitute lookup (t.flatMap (replace a k)) := by
        refine substitute_append_of_closed fun u v hk => closed_of_eq_none ?_
        rw [Option.eq_none_iff_forall_ne_some]
        intro name hname
        obtain ⟨hname', rest, hrest⟩ := wordBeforeAt?_eq_some hname
        have hpre : placeholder name <+: '@' :: v ++ t.flatMap (replace a k) := by
          refine ⟨rest, ?_⟩
          rw [placeholder_append, List.cons_append, hrest]
        exact (hword name hname').not_begins (by simp [placeholder]) hk (by simp) _ hpre
      rw [flatMap_replace_cons_self, hkey, ih, flatMap_replace_cons_self]
    · rw [flatMap_replace_cons_of_ne hac, substitute_cons_of_ne lookup ha, ih,
        flatMap_replace_cons_of_ne hac]

end Words

end Replace

/-! ## Conditionals -/

/-- No conditional is read anywhere in the text. -/
def Unread (t : Text) : Prop := ∀ u v, t = u ++ '@' :: '?' :: v → Conditional.read? v = none

theorem Unread.of_cons {a : Char} {t : Text} (h : Unread (a :: t)) : Unread t :=
  fun u v huv => h (a :: u) v (by rw [huv, List.cons_append])

/-- A text in which no conditional is read stays. -/
theorem resolveLevels_eq_self (e : Entry) (levels : Nat) {t : Text} (h : Unread t) :
    resolveLevels e levels t = t := by
  induction levels, t using resolveLevels.induct e with
  | case1 => exact resolveLevels_nil e _
  | case2 levels t hread ih => rw [resolveLevels_of_read?_eq_none e levels hread, ih h.of_cons.of_cons]
  | case3 levels t c rest hread => cases hread.symm.trans (h [] t rfl)
  | case4 levels a t hstart ih => rw [resolveLevels_cons e levels hstart, ih h.of_cons]

/-- No `?` follows an `@` or a `c`. -/
def Calm (c : Char) (t : Text) : Prop := ∀ a, a = '@' ∨ a = c → ¬ [a, '?'] <:+: t

section Calm

variable {c : Char} {k : Text}

theorem Calm.of_infix {s t : Text} (ht : Calm c t) (h : s <:+: t) : Calm c s :=
  fun a ha hocc => ht a ha (hocc.trans h)

theorem calm_nil : Calm c [] := fun a _ h => by
  have := h.length_le
  simp at this

theorem calm_cons {a : Char} {t : Text} :
    Calm c (a :: t) ↔ (a = '@' ∨ a = c → t.head? ≠ some '?') ∧ Calm c t := by
  constructor
  · intro h
    refine ⟨fun ha hhead => h a ha ?_, h.of_infix (List.suffix_cons a t).isInfix⟩
    obtain ⟨t', rfl⟩ := List.head?_eq_some_iff.1 hhead
    exact ⟨[], t', rfl⟩
  · rintro ⟨hhead, ht⟩ b hb hocc
    rcases List.infix_cons_iff.1 hocc with hpre | hocc
    · obtain ⟨rfl, t', rfl⟩ := List.cons_prefix_cons.1 hpre
      exact hhead hb rfl
    · exact ht b hb hocc

theorem Calm.append {s t : Text} (hs : Calm c s) (ht : Calm c t) (hhead : t.head? ≠ some '?') :
    Calm c (s ++ t) :=
  fun a ha => Text.not_pair_append (hs a ha) (ht a ha) hhead

section Substitution

variable {lookup : Text → Option Text}
  (hvalue : ∀ name v, lookup name = some v → Calm c v ∧ v.head? ≠ some '?')

include hvalue

/-- What stands behind a placeholder of a calm text is calm and does not begin with `?`. -/
theorem head?_substitute {t : Text} (ht : Calm c t) (hhead : t.head? ≠ some '?') :
    (substitute lookup t).head? ≠ some '?' := by
  fun_induction substitute lookup t with
  | case1 => simp
  | case2 t name hname v hv ih =>
    obtain ⟨-, rest, rfl⟩ := wordBeforeAt?_eq_some hname
    have hrest : Calm c ('@' :: rest) := ht.of_infix ⟨'@' :: name, [], by simp⟩
    rw [drop_word_append] at ih ⊢
    cases v with
    | nil => exact ih (calm_cons.1 hrest).2 ((calm_cons.1 hrest).1 (.inl rfl))
    | cons b v => exact (hvalue name _ hv).2
  | case3 t name hname hv ih | case4 t hname ih | case5 a t ha ih => exact hhead

/-- A substitution keeps a text calm, if its values are calm and do not begin with `?`. -/
theorem calm_substitute {t : Text} (ht : Calm c t) : Calm c (substitute lookup t) := by
  fun_induction substitute lookup t with
  | case1 => exact calm_nil
  | case2 t name hname v hv ih =>
    obtain ⟨-, rest, rfl⟩ := wordBeforeAt?_eq_some hname
    have hrest : Calm c ('@' :: rest) := ht.of_infix ⟨'@' :: name, [], by simp⟩
    obtain ⟨hhead, hrest⟩ := calm_cons.1 hrest
    rw [drop_word_append] at ih ⊢
    exact (hvalue name v hv).1.append (ih hrest) (head?_substitute hvalue hrest (hhead (.inl rfl)))
  | case3 t name hname hv ih | case4 t hname ih | case5 a t ha ih =>
    obtain ⟨hhead, ht⟩ := calm_cons.1 ht
    exact calm_cons.2 ⟨fun hac => head?_substitute hvalue ht (hhead hac), ih ht⟩

end Substitution

/-- In a calm text no conditional is read. -/
theorem Calm.unread {t : Text} (ht : Calm c t) : Unread t := by
  rintro u v rfl
  exact absurd ⟨u, v, by simp⟩ (ht '@' (.inl rfl))

/-- A `?` at the start of a calm text with an inert `k` in place of `c` opens no conditional. -/
theorem not_opens_of_head (hk : Inert k) {t v : Text} (hhead : t.head? ≠ some '?')
    (h : t.flatMap (replace c k) = '?' :: v) : ¬ Opens v := by
  cases t with
  | nil => cases h
  | cons a t =>
    by_cases ha : a = c
    · subst ha
      rw [flatMap_replace_cons_self] at h
      obtain ⟨b, k', rfl⟩ := List.exists_cons_of_ne_nil hk.ne_nil
      obtain ⟨rfl, rfl⟩ := List.cons.inj h
      exact hk.question [] k' _ rfl (.inl rfl)
    · rw [flatMap_replace_cons_of_ne ha] at h
      obtain ⟨rfl, -⟩ := List.cons.inj h
      exact absurd rfl hhead

/-- In a calm text with an inert `k` in place of `c` no conditional is read. -/
theorem unread_flatMap (hk : Inert k) {t : Text} (ht : Calm c t) :
    Unread (t.flatMap (replace c k)) := by
  intro u v huv
  suffices hopens : ¬ Opens v by
    rw [Option.eq_none_iff_forall_ne_some]
    rintro ⟨cond, rest⟩ hread
    exact hopens (opens_of_read? hread)
  induction t generalizing u with
  | nil => simp at huv
  | cons a t ih =>
    obtain ⟨hhead, ht⟩ := calm_cons.1 ht
    by_cases ha : a = c
    · subst ha
      rw [flatMap_replace_cons_self] at huv
      rcases List.append_eq_append_iff.1 huv with ⟨w, -, hw⟩ | ⟨w, hkw, hw⟩
      · exact ih ht w hw
      · -- The `@` lies in `k`, or the opening mark lies behind it.
        cases w with
        | nil => exact ih ht [] hw.symm
        | cons b w =>
          obtain ⟨rfl, hrest⟩ := List.cons.inj hw
          cases w with
          | nil => exact not_opens_of_head hk (hhead (.inr rfl)) hrest.symm
          | cons b w =>
            obtain ⟨rfl, rfl⟩ := List.cons.inj hrest
            refine hk.question (u ++ ['@']) w _ ?_ (.inr ?_)
            · rw [hkw, List.append_assoc, List.singleton_append]
            · simp
    · rw [flatMap_replace_cons_of_ne ha] at huv
      cases u with
      | nil =>
        obtain ⟨rfl, hrest⟩ := List.cons.inj huv
        exact not_opens_of_head hk (hhead (.inl rfl)) hrest
      | cons b u => exact ih ht u (List.cons.inj huv).2

end Calm

end PubList.Template
