import PubList.Proofs.Values

/-!
# Spaced fragments

`IsLiteral` asks of every literal that it can stand behind any mark. Less will do. While the reserved
placeholders are filled, what stands behind a mark only has to keep the reserved names and the markers
of blocks from being read there (`Bars`). Behind the marks that are still there when the conditionals
are resolved and the fields are put in, it has to keep every word from being read as a name
(`IsBarrier`). A fragment that observes both is `Spaced`. A low line between two reserved placeholders
is no barrier, but it bars the reserved names, and this is enough.

`Fragment.Spaced.renderEntry_fill` is the rendering of an entry.
-/

namespace PubList.Template

open Text (IsWord isWordChar NoHead)

/-! ## Texts behind a mark -/

/-- Whatever follows the text, none of the given marks is read where it begins. -/
def Bars (marks : List Text) (s : Text) : Prop := '@' ∉ s ∧ ∀ m ∈ marks, ¬ s <+: m

instance (marks : List Text) (s : Text) : Decidable (Bars marks s) :=
  inferInstanceAs (Decidable (_ ∧ ∀ m ∈ marks, ¬ s <+: m))

theorem Bars.not_prefix {marks : List Text} {s m : Text} (hs : Bars marks s) (hm : m ∈ marks)
    (t : Text) : ¬ m ++ ['@'] <+: s ++ t := by
  intro hmark
  -- The `@` that ends the mark would lie in `s`, or `s` would end before it.
  rcases List.prefix_or_prefix_of_prefix hmark (List.prefix_append s t) with h | h
  · exact hs.1 (h.subset (by simp))
  · rcases List.prefix_concat_iff.1 h with rfl | h
    · exact hs.1 (by simp)
    · exact hs.2 m hm h

/-- What stands between the two `@` of the marks that are replaced before the conditionals are
resolved: reserved placeholders, and the markers of blocks. -/
def earlyMarks : List Text :=
  reservedNames ++ [BlockKind.group, .entry].flatMap fun kind =>
    ['\x7b' :: kind.name, '\x7d' :: kind.name]

theorem cons_name_mem_earlyMarks {k : Char} (hk : k ∈ braces) (kind : BlockKind) :
    k :: kind.name ∈ earlyMarks := by
  have hall : ∀ k ∈ braces, ∀ kind ∈ [BlockKind.group, .entry], k :: kind.name ∈ earlyMarks := by
    decide
  exact hall k hk kind (by cases kind <;> decide)

theorem closed_of_bars {lookup : Text → Option Text} {s : Text} (hs : Bars earlyMarks s)
    (hlookup : ∀ name v, lookup name = some v → name ∈ reservedNames) (t : Text) :
    Closed lookup (s ++ t) := by
  intro name hname
  obtain ⟨-, rest, heq⟩ := wordBeforeAt?_eq_some hname
  rw [Option.eq_none_iff_forall_ne_some]
  intro v hv
  refine hs.not_prefix (List.mem_append_left _ (hlookup name v hv)) t ⟨rest, ?_⟩
  rw [heq, List.append_assoc, List.singleton_append]

theorem apart_of_bars {s m : Text} (hs : Bars earlyMarks s) (hm : m ∈ earlyMarks) (t : Text) :
    Apart m (s ++ t) := by
  rw [Apart, Option.eq_none_iff_forall_ne_some]
  intro rest hrest
  exact hs.not_prefix hm t ⟨rest, (Text.dropMark?_eq_some.1 hrest).symm⟩

/-- What can stand in the head of a conditional behind the name of the field. -/
def testHeads : List Char := ['@', '=', '!', '<', '>', '~']

/-- The text does not begin like the head of a conditional: behind `?` and a word stands something
that no test begins with. -/
def NoQuestion (s : Text) : Prop :=
  s.head? = some '?' → (s.tail.dropWhile isWordChar).head?.any (· ∉ testHeads) = true

instance (s : Text) : Decidable (NoQuestion s) :=
  inferInstanceAs (Decidable (_ → Option.any _ _ = true))

theorem readTest?_eq_none {c : Char} (hc : c ∉ testHeads) (t : Text) :
    Conditional.readTest? (c :: t) = none := by
  simp only [testHeads, List.mem_cons, List.not_mem_nil, or_false, not_or] at hc
  obtain ⟨hat, heq, hne, hlt, hgt, hlike⟩ := hc
  have hsplit : Operator.split? (c :: t) = none := by
    simp [Operator.split?, Operator.all, Operator.symbol, Text.dropMark?, Ne.symm heq, Ne.symm hne,
      Ne.symm hlt, Ne.symm hgt, Ne.symm hlike]
  simp [Conditional.readTest?, hat, hsplit]

theorem NoQuestion.read?_eq_none {t : Text} (h : NoQuestion ('?' :: t)) (u : Text) :
    Conditional.read? (t ++ u) = none := by
  obtain ⟨c, hc, hhead⟩ := (Option.any_eq_true _ _).1 (h rfl)
  rw [decide_eq_true_eq] at hhead
  obtain ⟨v, hv⟩ : ∃ v, t.dropWhile isWordChar = c :: v := List.head?_eq_some_iff.1 hc
  have hdrop : (t ++ u).dropWhile isWordChar = c :: (v ++ u) := by
    rw [List.dropWhile_append, hv]
    rfl
  simp [Conditional.read?, hdrop, readTest?_eq_none hhead]

/-- A text that keeps what stands behind a mark from completing anything that begins there. -/
structure IsBarrier (s : Text) : Prop where
  hasBreak : ∃ c ∈ s, isWordChar c = false
  noHead : NoHead [':', ';'] s
  noQuestion : NoQuestion s

instance (s : Text) : Decidable (IsBarrier s) :=
  decidable_of_iff ((∃ c ∈ s, isWordChar c = false) ∧ NoHead [':', ';'] s ∧ NoQuestion s)
    ⟨fun h => ⟨h.1, h.2.1, h.2.2⟩, fun h => ⟨h.hasBreak, h.noHead, h.noQuestion⟩⟩

/-! ## Fragments behind a mark -/

/-- What is known are reserved placeholders, and no value of them has an `@`. -/
def Tame (known : Text → Option Text) : Prop :=
  ∀ name v, known name = some v → name ∈ reservedNames ∧ '@' ∉ v

section Tame

variable {known known' : Text → Option Text}

theorem tame_none : Tame fun _ => none := fun _ _ h => by cases h

theorem tame_global (mode : GroupMode) (n : Nat) : Tame (globalValue mode n) := by
  intro name v h
  obtain ⟨hname, hword, -⟩ := globalValue_eq_some h
  exact ⟨List.mem_append_left _ (List.mem_append_left _ hname), not_at_mem_of_isWord hword⟩

theorem tame_group {key : Text} (hkey : '@' ∉ key) (id count : Nat) :
    Tame (groupValue key id count) := by
  intro name v h
  obtain ⟨hname, hv⟩ := groupValue_eq_some h
  refine ⟨List.mem_append_left _ (List.mem_append_right _ hname), ?_⟩
  rcases hv with ⟨-, rfl⟩ | hword
  · exact hkey
  · exact not_at_mem_of_isWord hword

theorem tame_entryKey {e : Entry} (hkey : '@' ∉ e.key) : Tame (entryKeyValue e) := by
  intro name v h
  rw [entryKeyValue, Option.ite_none_right_eq_some] at h
  obtain ⟨rfl, h⟩ := h
  cases h
  exact ⟨by decide, hkey⟩

theorem Tame.firstOf (h : Tame known) (h' : Tame known') : Tame (firstOf known known') := by
  intro name v hv
  rcases Option.or_eq_some_iff.1 hv with hv | ⟨-, hv⟩
  · exact h name v hv
  · exact h' name v hv

end Tame

namespace Fragment

/-- The literal at the start of a fragment is as `L` says, and no reserved placeholder stands there. -/
def Starts (L : Text → Prop) : Fragment → Prop
  | literal t _ => L t
  | mark name _ => name ∉ reservedNames
  | _ => True

instance decidableStarts (L : Text → Prop) [DecidablePred L] : DecidablePred (Starts L)
  | nil => inferInstanceAs (Decidable True)
  | literal t _ => inferInstanceAs (Decidable (L t))
  | mark name _ => inferInstanceAs (Decidable (name ∉ reservedNames))
  | ifThen _ _ _ => inferInstanceAs (Decidable True)
  | ifElse _ _ _ _ => inferInstanceAs (Decidable True)

/-- Behind every mark of a fragment but the given placeholders, the rest of the sequence that the
mark stands in is as `P` says. -/
def BehindMarksBut (names : List Text) (P : Fragment → Prop) : Fragment → Prop
  | nil => True
  | literal _ rest => rest.BehindMarksBut names P
  | mark name rest => (name ∈ names ∨ P rest) ∧ rest.BehindMarksBut names P
  | ifThen _ yes rest =>
    (P yes ∧ yes.BehindMarksBut names P) ∧ P rest ∧ rest.BehindMarksBut names P
  | ifElse _ yes no rest =>
    (P yes ∧ yes.BehindMarksBut names P) ∧ (P no ∧ no.BehindMarksBut names P) ∧
      P rest ∧ rest.BehindMarksBut names P

instance decidableBehindMarksBut (names : List Text) (P : Fragment → Prop) [DecidablePred P] :
    DecidablePred (BehindMarksBut names P)
  | nil => inferInstanceAs (Decidable True)
  | literal _ rest => decidableBehindMarksBut names P rest
  | mark name rest =>
    have := decidableBehindMarksBut names P rest
    inferInstanceAs (Decidable ((name ∈ names ∨ P rest) ∧ rest.BehindMarksBut names P))
  | ifThen _ yes rest =>
    have := decidableBehindMarksBut names P yes
    have := decidableBehindMarksBut names P rest
    inferInstanceAs (Decidable ((P yes ∧ yes.BehindMarksBut names P) ∧ P rest ∧
      rest.BehindMarksBut names P))
  | ifElse _ yes no rest =>
    have := decidableBehindMarksBut names P yes
    have := decidableBehindMarksBut names P no
    have := decidableBehindMarksBut names P rest
    inferInstanceAs (Decidable ((P yes ∧ yes.BehindMarksBut names P) ∧
      (P no ∧ no.BehindMarksBut names P) ∧ P rest ∧ rest.BehindMarksBut names P))

section Starts

variable {known lookup : Text → Option Text} {L : Text → Prop} {g : Fragment}

theorem Starts.fill (hknown : Tame known) (h : g.Starts L) : (g.fill known).Starts L := by
  cases g with
  | mark name rest =>
    have hnone : known name = none := by
      rw [Option.eq_none_iff_forall_ne_some]
      exact fun v hv => h (hknown name v hv).1
    rw [Fragment.fill, hnone]
    exact h
  | _ => exact h

/-- Filling the placeholders that were left out of account, and perhaps other reserved ones, leaves
none of them. -/
theorem BehindMarksBut.fill {names : List Text} (hknown : Tame known)
    (hnames : ∀ name ∈ names, ∃ v, known name = some v) {f : Fragment}
    (h : f.BehindMarksBut names (Starts L)) : (f.fill known).BehindMarks (Starts L) := by
  induction f with
  | nil => trivial
  | literal t rest ih => exact ih h
  | mark name rest ih =>
    have hrest := ih h.2
    rw [Fragment.fill]
    cases hvalue : known name with
    | some v => exact hrest
    | none =>
      -- A placeholder without a value is none of `names`, so what stands behind it was looked at.
      refine ⟨Starts.fill hknown (h.1.resolve_left fun hmem => ?_), hrest⟩
      obtain ⟨v, hv⟩ := hnames name hmem
      rw [hvalue] at hv
      cases hv
  | ifThen c yes rest ihyes ihrest =>
    exact ⟨⟨h.1.1.fill hknown, ihyes h.1.2⟩, h.2.1.fill hknown, ihrest h.2.2⟩
  | ifElse c yes no rest ihyes ihno ihrest =>
    exact ⟨⟨h.1.1.fill hknown, ihyes h.1.2⟩, ⟨h.2.1.1.fill hknown, ihno h.2.1.2⟩,
      h.2.2.1.fill hknown, ihrest h.2.2.2⟩

theorem Starts.closed (h : g.Starts (Bars earlyMarks)) (hlookup : Tame lookup) {t : Text}
    (ht : Closed lookup t) : Closed lookup (g.text ++ t) := by
  cases g with
  | nil => exact ht
  | literal s rest =>
    rw [text, List.append_assoc]
    exact closed_of_bars h (fun name v hv => (hlookup name v hv).1) _
  | _ => exact closed_at _

theorem Starts.apart (h : g.Starts (Bars earlyMarks)) {k : Char} (hk : k ∈ braces)
    {kind : BlockKind} {t : Text} (ht : Apart (k :: kind.name) t) :
    Apart (k :: kind.name) (g.text ++ t) := by
  have hat : '@' ≠ k := Ne.symm (not_word_of_mem_braces hk).1
  cases g with
  | nil => exact ht
  | literal s rest =>
    rw [text, List.append_assoc]
    exact apart_of_bars h (cons_name_mem_earlyMarks hk kind) _
  | _ => exact apart_cons hat

theorem Starts.guarded (h : g.Starts IsBarrier) : g.Guarded := by
  cases g with
  | literal s rest =>
    obtain ⟨c, hc, hbreak⟩ := h.hasBreak
    exact .inr ⟨c, List.mem_append_left _ hc, hbreak⟩
  | _ => exact .inl rfl

theorem Starts.apartFromMarks (h : g.Starts IsBarrier) : g.ApartFromMarks := by
  cases g with
  | literal s rest =>
    obtain ⟨c, hc, -⟩ := h.hasBreak
    refine ⟨h.noHead.append_of_ne_nil (List.ne_nil_of_mem hc) _, fun t ht => ?_⟩
    cases s with
    | nil => cases hc
    | cons a s =>
      obtain ⟨rfl, rfl⟩ := List.cons.inj ht
      exact h.noQuestion.read?_eq_none rest.text
  | nil => exact ⟨Text.noHead_nil _, fun t ht => by cases ht⟩
  | _ => exact apart_of_noHead (Text.noHead_cons (by decide) _)

end Starts

/-! ## Spaced fragments -/

/-- A fragment in which every mark can be told from what stands behind it as long as it is there. -/
structure Spaced (f : Fragment) : Prop where
  wellFormed : f.WellFormed ('@' ∉ ·)
  depth_le : f.depth ≤ maxDepth
  bars : f.BehindMarksBut [] (Starts (Bars earlyMarks))
  barriers : f.BehindMarksBut reservedNames (Starts IsBarrier)

instance (f : Fragment) : Decidable f.Spaced :=
  decidable_of_iff (f.WellFormed ('@' ∉ ·) ∧ f.depth ≤ maxDepth ∧
      f.BehindMarksBut [] (Starts (Bars earlyMarks)) ∧
      f.BehindMarksBut reservedNames (Starts IsBarrier))
    ⟨fun h => ⟨h.1, h.2.1, h.2.2.1, h.2.2.2⟩,
      fun h => ⟨h.wellFormed, h.depth_le, h.bars, h.barriers⟩⟩

/-- Filling keeps a fragment well-formed if no value has an `@`. -/
theorem wellFormed_fill_of_tame {known : Text → Option Text} (hknown : Tame known) {f : Fragment}
    (hf : f.WellFormed ('@' ∉ ·)) : (f.fill known).WellFormed ('@' ∉ ·) := by
  induction f with
  | nil => trivial
  | literal t rest ih => exact ⟨hf.1, ih hf.2⟩
  | mark name rest ih =>
    rw [fill]
    cases hvalue : known name with
    | none => exact ⟨hf.1, ih hf.2⟩
    | some v => exact ⟨(hknown name v hvalue).2, ih hf.2⟩
  | ifThen c yes rest ihyes ihrest =>
    obtain ⟨hc, hfield, hyes, hrest⟩ := hf
    refine ⟨hc, ?_, ihyes hyes, ihrest hrest⟩
    rwa [fields_fill]
  | ifElse c yes no rest ihyes ihno ihrest =>
    obtain ⟨hc, hfield, hyes, hno, hrest⟩ := hf
    refine ⟨hc, ?_, ihyes hyes, ihno hno, ihrest hrest⟩
    rwa [fields_fill, fields_fill]

namespace Spaced

variable {known lookup : Text → Option Text} {f : Fragment}

/-- Behind the marks of a spaced fragment that is filled, nothing completes an early mark. -/
theorem bars_fill (hf : f.Spaced) (hknown : Tame known) :
    (f.fill known).BehindMarks (Starts (Bars earlyMarks)) :=
  hf.bars.fill hknown fun _ hname => absurd hname List.not_mem_nil

/-- A pass for reserved placeholders over a spaced fragment that is filled already fills it
further. -/
theorem carries_fill (hf : f.Spaced) (hknown : Tame known) (hlookup : Tame lookup) :
    Carries lookup (f.fill known).text (f.fill (firstOf known lookup)).text := by
  rw [← fill_fill]
  exact carries_text (wellFormed_fill_of_tame hknown hf.wellFormed)
    ((hf.bars_fill hknown).mono fun g hg _ => hg.closed hlookup)

/-- A search for the marker of a block passes over a spaced fragment that is filled. -/
theorem passes_marker (hf : f.Spaced) (hknown : Tame known) {k : Char} (hk : k ∈ braces)
    (kind : BlockKind) : Passes (k :: kind.name) (f.fill known).text := by
  have hwf := wellFormed_fill_of_tame hknown hf.wellFormed
  exact passes_text (not_word_of_mem_braces hk).1 (not_at_mem_of_isWord kind.isWord_name) hwf
    ((hf.bars_fill hknown).mono fun g hg _ => hg.apart hk) (not_mem_marks_of_brace hk hwf)

/-- A spaced fragment that can itself stand behind a mark is a part of a text like any other. -/
theorem fills_fill (hf : f.Spaced) (hstart : f.Starts (Bars earlyMarks)) (hknown : Tame known)
    (hlookup : Tame lookup) :
    Fills lookup (f.fill known).text (f.fill (firstOf known lookup)).text where
  carries := hf.carries_fill hknown hlookup
  closed _ := (hstart.fill hknown).closed hlookup

theorem skips_marker (hf : f.Spaced) (hstart : f.Starts (Bars earlyMarks)) (hknown : Tame known)
    {k : Char} (hk : k ∈ braces) (kind : BlockKind) :
    Skips (k :: kind.name) (f.fill known).text where
  passes := hf.passes_marker hknown hk kind
  apart _ := (hstart.fill hknown).apart hk

/-- **One entry.** Where the placeholders for the list and for the group are filled, rendering the
text of a spaced fragment for an entry gives what the fragment means. -/
theorem renderEntry_fill (hf : f.Spaced) (hknown : Tame known)
    (hnames : ∀ name ∈ globalNames ++ groupNames, ∃ v, known name = some v) {e : Entry}
    (hkey : '@' ∉ e.key) :
    renderEntry e (f.fill known).text =
      f.denote (firstOf (firstOf known (entryKeyValue e)) e.get?) e := by
  have hentry := tame_entryKey hkey
  have hall := hknown.firstOf hentry
  have hreserved (name : Text) (hname : name ∈ reservedNames) :
      ∃ v, firstOf known (entryKeyValue e) name = some v := by
    rcases List.mem_append.1 hname with hname | hname
    · obtain ⟨v, hv⟩ := hnames name hname
      exact ⟨v, by rw [firstOf, hv, Option.some_or]⟩
    · rw [List.mem_singleton.1 hname, firstOf]
      cases known "entrykey".toList with
      | some v => exact ⟨v, rfl⟩
      | none => exact ⟨e.key, rfl⟩
  have hkeyed := (hf.carries_fill hknown hentry).substitute_eq
  have hbarriers := hf.barriers.fill hall hreserved
  have hdepth : (f.fill (firstOf known (entryKeyValue e))).depth ≤ maxDepth := by
    rw [depth_fill]
    exact hf.depth_le
  rw [renderEntry_eq_denote hkeyed (wellFormed_fill_of_tame hall hf.wellFormed)
    (hbarriers.mono fun _ hg => hg.apartFromMarks) (hbarriers.mono fun _ hg => hg.guarded) hdepth,
    denote_fill]

end Spaced

end Fragment

end PubList.Template
