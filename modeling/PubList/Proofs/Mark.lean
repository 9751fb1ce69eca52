import PubList.Proofs.Search
import PubList.Template.Conditional
import PubList.Template.Render

/-!
# Marks

Every mark of a template is a text between two `@`, that is, it has the form of a placeholder. A
text that is built from marks and from texts without `@` is followed part by part:

* `Passes m s` says that a search for the mark `@m@` passes over `s`,
* `Carries lookup s s'` says that the substitution turns `s` into `s'`,

whatever comes next, as long as it does not complete a mark that begins before it (`Apart`,
`Closed`). A part that keeps this promise to the part in front of it has the stronger `Skips` or
`Fills`, and these are kept by concatenation.
-/

namespace PubList.Template

open Text (IsWord isWordChar cutAt? dropMark? shift)

theorem placeholder_append (m t : Text) : placeholder m ++ t = '@' :: (m ++ '@' :: t) := by
  simp [placeholder]

/-- The name in the markers of a block. -/
def BlockKind.name : BlockKind → Text
  | group => "group".toList
  | entry => "entry".toList

theorem BlockKind.isWord_name (kind : BlockKind) : IsWord kind.name := by
  cases kind <;> exact ⟨by decide, by decide⟩

theorem BlockKind.opener_eq (kind : BlockKind) :
    kind.opener = placeholder ('\x7b' :: kind.name) := by
  cases kind <;> rfl

theorem BlockKind.closer_eq (kind : BlockKind) :
    kind.closer = placeholder ('\x7d' :: kind.name) := by
  cases kind <;> rfl

/-- What the markers of blocks begin with, behind their `@`. -/
def braces : List Char := ['\x7b', '\x7d']

theorem not_word_of_mem_braces {k : Char} (hk : k ∈ braces) : k ≠ '@' ∧ isWordChar k = false := by
  have hall : ∀ k ∈ braces, k ≠ '@' ∧ isWordChar k = false := by decide
  exact hall k hk

/-! ## Reading a word -/

theorem not_mem_of_isWord {name : Text} (h : IsWord name) {c : Char} (hc : isWordChar c = false) :
    c ∉ name := by
  intro hmem
  have hword : isWordChar c = true := h.2 c hmem
  rw [hc] at hword
  cases hword

theorem not_at_mem_of_isWord {name : Text} (h : IsWord name) : '@' ∉ name :=
  not_mem_of_isWord h Text.isWordChar_at

theorem wordBeforeAt?_iff {t name : Text} :
    wordBeforeAt? t = some name ↔ IsWord name ∧ ∃ rest, t = name ++ '@' :: rest := by
  constructor
  · exact wordBeforeAt?_eq_some
  · rintro ⟨hname, rest, rfl⟩
    exact wordBeforeAt?_append hname

@[simp] theorem wordBeforeAt?_at (t : Text) : wordBeforeAt? ('@' :: t) = none := by
  simp [wordBeforeAt?, Text.isWordChar_at]

@[simp] theorem wordBeforeAt?_nil : wordBeforeAt? [] = none := rfl

/-- Only the whole text in front of the first `@` is read as a word. -/
theorem wordBeforeAt?_append_at {s t name : Text} (hs : '@' ∉ s) :
    wordBeforeAt? (s ++ '@' :: t) = some name ↔ IsWord s ∧ s = name := by
  rw [wordBeforeAt?_iff]
  constructor
  · rintro ⟨hname, rest, heq⟩
    obtain ⟨rfl, -⟩ := Text.append_cons_inj hs (not_at_mem_of_isWord hname) heq
    exact ⟨hname, rfl⟩
  · rintro ⟨hword, rfl⟩
    exact ⟨hword, t, rfl⟩

/-- A character that no word has, in front of the first `@`, keeps an `@` from opening a
placeholder. -/
theorem wordBeforeAt?_append_of_break {s : Text} (hat : '@' ∉ s)
    (hbreak : ∃ c ∈ s, isWordChar c = false) (t : Text) : wordBeforeAt? (s ++ t) = none := by
  rw [Option.eq_none_iff_forall_ne_some]
  intro name hname
  obtain ⟨hword, rest, heq⟩ := wordBeforeAt?_eq_some hname
  obtain ⟨c, hc, hcword⟩ := hbreak
  -- The break lies in the name, or the `@` behind the name lies in `s`.
  have hcname : c ∈ name := by
    rcases List.append_eq_append_iff.1 heq with ⟨u, rfl, -⟩ | ⟨u, rfl, hu⟩
    · exact List.mem_append_left u hc
    · cases u with
      | nil => simpa using hc
      | cons a u =>
        obtain ⟨rfl, -⟩ := List.cons.inj hu
        simp at hat
  have := hword.2 c hcname
  simp [hcword] at this

/-! ## Searching, part by part -/

/-- An `@` in front of the text does not begin the mark `@m@`. -/
def Apart (m t : Text) : Prop := dropMark? (m ++ ['@']) t = none

theorem apart_cons {m t : Text} {a c : Char} (h : c ≠ a) : Apart (a :: m) (c :: t) := by
  simp [Apart, dropMark?, Ne.symm h]

theorem apart_nil (m : Text) : Apart m [] := by
  cases m <;> rfl

theorem apart_append {m s t : Text} {a : Char} (hs : s.head? ≠ some a) (ht : Apart (a :: m) t) :
    Apart (a :: m) (s ++ t) := by
  cases s with
  | nil => exact ht
  | cons c s => exact apart_cons fun hc => hs (by simp [hc])

/-- A search for a mark passes over a text without `@`. -/
theorem cutAt?_placeholder_append {s : Text} (h : '@' ∉ s) (m t : Text) :
    cutAt? (placeholder m) (s ++ t) = shift s (cutAt? (placeholder m) t) :=
  Text.cutAt?_append_of_not_mem h t

/-- A search for the mark `@m@` passes over `s`, if what comes next does not complete it. -/
def Passes (m s : Text) : Prop :=
  ∀ t, Apart m t → cutAt? (placeholder m) (s ++ t) = shift s (cutAt? (placeholder m) t)

/-- A search for the mark `@m@` passes over `s` and over an `@` in front of `s`. -/
structure Skips (m s : Text) : Prop where
  passes : Passes m s
  apart : ∀ t, Apart m t → Apart m (s ++ t)

theorem Passes.nil (m : Text) : Passes m [] := fun t _ => by simp

theorem Passes.append {m s s' : Text} (h : Passes m s) (h' : Skips m s') : Passes m (s ++ s') := by
  intro t ht
  rw [List.append_assoc, h _ (h'.apart t ht), h'.passes t ht, Text.shift_append]

/-- A text without `@` is passed over, whatever comes next. -/
theorem Passes.append_of_not_mem {m s s' : Text} (hs : '@' ∉ s) (h' : Passes m s') :
    Passes m (s ++ s') := by
  intro t ht
  rw [List.append_assoc, cutAt?_placeholder_append hs, h' t ht, Text.shift_append]

/-- An `@` begins no mark if what stands between it and the next `@`, or the end, is not the inside of
the mark. -/
theorem dropMark?_at_append {m n t : Text} (hm : '@' ∉ m) (hn : '@' ∉ n) (hmn : n ≠ m)
    (ht : ∀ c ∈ t.head?, c = '@') : dropMark? (placeholder m) ('@' :: (n ++ t)) = none := by
  rw [Option.eq_none_iff_forall_ne_some]
  intro rest hrest
  rw [Text.dropMark?_eq_some, placeholder_append] at hrest
  have hrest : n ++ t = m ++ '@' :: rest := (List.cons.inj hrest).2
  cases t with
  | nil =>
    rw [List.append_nil] at hrest
    simp [hrest] at hn
  | cons c t =>
    obtain rfl : c = '@' := ht c rfl
    exact hmn (Text.append_cons_inj hn hm hrest).1

/-- A search for a mark passes over an `@` and what stands between it and the next one, if that is not
the inside of the mark. -/
theorem cutAt?_at_append {m n t : Text} (hm : '@' ∉ m) (hn : '@' ∉ n) (hmn : n ≠ m)
    (ht : ∀ c ∈ t.head?, c = '@') :
    cutAt? (placeholder m) ('@' :: (n ++ t)) = shift ('@' :: n) (cutAt? (placeholder m) t) := by
  rw [Text.cutAt?_cons_of_none (dropMark?_at_append hm hn hmn ht), cutAt?_placeholder_append hn,
    ← Text.shift_append]
  rfl

/-- A search for a mark passes over another mark. -/
theorem Passes.mark {m n : Text} (hm : '@' ∉ m) (hn : '@' ∉ n) (hmn : n ≠ m) :
    Passes m (placeholder n) := by
  intro t ht
  have hclose : dropMark? (placeholder m) ('@' :: t) = none := by
    simpa [placeholder, dropMark?, Apart] using ht
  rw [placeholder_append, cutAt?_at_append hm hn hmn (by simp), Text.cutAt?_cons_of_none hclose,
    ← Text.shift_append]
  rfl

/-- A mark behind a part that is passed over is found. -/
theorem Passes.cutAt?_mark {a : Char} {m s : Text} (ha : a ≠ '@') (h : Passes (a :: m) s)
    (t : Text) : cutAt? (placeholder (a :: m)) (s ++ (placeholder (a :: m) ++ t)) = some (s, t) := by
  have hstop := Text.cutAt?_mark_append (placeholder (a :: m)) t
  rw [h (placeholder (a :: m) ++ t) (apart_cons (Ne.symm ha)), hstop, Text.shift_some, List.append_nil]

/-- A part that is passed over does not hold the mark. -/
theorem Passes.cutAt?_eq_none {m s : Text} (h : Passes m s) : cutAt? (placeholder m) s = none := by
  have hnil : cutAt? (placeholder m) [] = none := rfl
  have hpass := h [] (apart_nil m)
  rwa [hnil, List.append_nil] at hpass

theorem Skips.nil (m : Text) : Skips m [] := ⟨Passes.nil m, fun _ ht => ht⟩

theorem Skips.append {m s s' : Text} (h : Skips m s) (h' : Skips m s') : Skips m (s ++ s') where
  passes := h.passes.append h'
  apart t ht := by
    rw [List.append_assoc]
    exact h.apart _ (h'.apart t ht)

/-- A search passes over a text without `@` that does not begin like what it looks for. -/
theorem Skips.of_not_mem {a : Char} {m s : Text} (hs : '@' ∉ s) (hhead : s.head? ≠ some a) :
    Skips (a :: m) s where
  passes := by simpa using Passes.append_of_not_mem hs (Passes.nil (a :: m))
  apart _ := apart_append hhead

theorem Skips.mark {a : Char} {m n : Text} (ha : a ≠ '@') (hm : '@' ∉ m) (hn : '@' ∉ n)
    (hmn : n ≠ a :: m) : Skips (a :: m) (placeholder n) where
  passes := Passes.mark (by simp [hm, Ne.symm ha]) hn hmn
  apart _ _ := apart_cons (Ne.symm ha)

/-- An `@` is skipped if what follows does not make a mark of it. -/
theorem Skips.atSign {a : Char} (ha : a ≠ '@') (m : Text) : Skips (a :: m) ['@'] where
  passes t ht := by
    have hdrop : dropMark? (placeholder (a :: m)) ('@' :: t) = none := by
      simpa [placeholder, dropMark?, Apart] using ht
    exact Text.cutAt?_cons_of_none hdrop
  apart _ _ := apart_cons (Ne.symm ha)

theorem Skips.flatMap {α : Type} {m : Text} {parts : List α} {part : α → Text}
    (h : ∀ p ∈ parts, Skips m (part p)) : Skips m (parts.flatMap part) := by
  induction parts with
  | nil => exact Skips.nil m
  | cons p parts ih =>
    rw [List.forall_mem_cons] at h
    rw [List.flatMap_cons]
    exact h.1.append (ih h.2)

/-! ## Substitution, part by part -/

section Substitution

variable {lookup : Text → Option Text}

/-- An `@` in front of the text opens no placeholder that `lookup` knows. -/
def Closed (lookup : Text → Option Text) (t : Text) : Prop :=
  ∀ name, wordBeforeAt? t = some name → lookup name = none

theorem closed_of_eq_none {t : Text} (h : wordBeforeAt? t = none) : Closed lookup t := by
  intro name hname
  rw [h] at hname
  cases hname

theorem Closed.of_append {s t : Text} (h : Closed lookup (s ++ t)) : Closed lookup s := by
  intro name hname
  obtain ⟨hword, rest, rfl⟩ := wordBeforeAt?_eq_some hname
  exact h name (wordBeforeAt?_iff.2 ⟨hword, rest ++ t, by simp⟩)

theorem closed_nil : Closed lookup [] := closed_of_eq_none wordBeforeAt?_nil

theorem closed_at (t : Text) : Closed lookup ('@' :: t) := closed_of_eq_none (wordBeforeAt?_at t)

/-- An `@` that opens nothing known stays. -/
theorem substitute_at_of_closed {t : Text} (h : Closed lookup t) :
    substitute lookup ('@' :: t) = '@' :: substitute lookup t := by
  rw [substitute]
  simp only [↓reduceIte]
  split
  · next name hname => rw [h name hname]
  · rfl

/-- A text without `@` stays. -/
theorem substitute_append_of_not_mem {s : Text} (h : '@' ∉ s) (t : Text) :
    substitute lookup (s ++ t) = s ++ substitute lookup t := by
  induction s with
  | nil => rfl
  | cons c s ih =>
    rw [List.mem_cons, not_or] at h
    rw [List.cons_append, substitute_cons_of_ne lookup (Ne.symm h.1), ih h.2, List.cons_append]

/-- A text stays in which no `@` opens anything known. -/
theorem substitute_append_of_closed {s t : Text}
    (h : ∀ u v, s = u ++ '@' :: v → Closed lookup (v ++ t)) :
    substitute lookup (s ++ t) = s ++ substitute lookup t := by
  induction s with
  | nil => rfl
  | cons c s ih =>
    have hrest := ih fun u v huv => h (c :: u) v (by rw [huv, List.cons_append])
    by_cases hc : c = '@'
    · subst hc
      rw [List.cons_append, substitute_at_of_closed (h [] s rfl), hrest, List.cons_append]
    · rw [List.cons_append, substitute_cons_of_ne lookup hc, hrest, List.cons_append]

theorem substitute_eq_self {t : Text} (h : ∀ u v, t = u ++ '@' :: v → Closed lookup v) :
    substitute lookup t = t := by
  have hstay : substitute lookup (t ++ []) = t ++ substitute lookup [] :=
    substitute_append_of_closed fun u v huv => by simpa using h u v huv
  simpa using hstay

/-- A text without a known placeholder stays. -/
theorem substitute_eq_self_of_not_infix {t : Text}
    (h : ∀ name v, lookup name = some v → ¬ placeholder name <:+: t) : substitute lookup t = t := by
  refine substitute_eq_self fun u s ht name hname => ?_
  obtain ⟨-, rest, rfl⟩ := wordBeforeAt?_eq_some hname
  rw [Option.eq_none_iff_forall_ne_some]
  intro v hv
  exact h name v hv ⟨u, rest, by rw [ht, List.append_assoc, placeholder_append]⟩

/-- A mark that opens nothing known stays. -/
theorem substitute_mark {m t : Text} (hm : '@' ∉ m) (hname : IsWord m → lookup m = none)
    (ht : Closed lookup t) :
    substitute lookup (placeholder m ++ t) = placeholder m ++ substitute lookup t := by
  have hopen : Closed lookup (m ++ '@' :: t) := by
    intro name hname'
    obtain ⟨hword, rfl⟩ := (wordBeforeAt?_append_at hm).1 hname'
    exact hname hword
  rw [placeholder_append, substitute_at_of_closed hopen, substitute_append_of_not_mem hm,
    substitute_at_of_closed ht, placeholder_append]

/-- The substitution turns `s` into `s'`, if what comes next does not complete a placeholder. -/
def Carries (lookup : Text → Option Text) (s s' : Text) : Prop :=
  ∀ t, Closed lookup t → substitute lookup (s ++ t) = s' ++ substitute lookup t

/-- The substitution turns `s` into `s'`, and `s` completes no placeholder that begins before it. -/
structure Fills (lookup : Text → Option Text) (s s' : Text) : Prop where
  carries : Carries lookup s s'
  closed : ∀ t, Closed lookup t → Closed lookup (s ++ t)

theorem Carries.nil : Carries lookup [] [] := fun _ _ => rfl

theorem Carries.append {s s' u u' : Text} (h : Carries lookup s s') (h' : Fills lookup u u') :
    Carries lookup (s ++ u) (s' ++ u') := by
  intro t ht
  rw [List.append_assoc, h _ (h'.closed t ht), h'.carries t ht, List.append_assoc]

/-- A text without `@` stays, whatever comes next. -/
theorem Carries.append_of_not_mem {s u u' : Text} (hs : '@' ∉ s) (h' : Carries lookup u u') :
    Carries lookup (s ++ u) (s ++ u') := by
  intro t ht
  rw [List.append_assoc, substitute_append_of_not_mem hs, h' t ht, List.append_assoc]

theorem Carries.substitute_eq {s s' : Text} (h : Carries lookup s s') :
    substitute lookup s = s' := by
  simpa using h [] closed_nil

theorem Fills.nil : Fills lookup [] [] := ⟨Carries.nil, fun _ ht => ht⟩

theorem Fills.append {s s' u u' : Text} (h : Fills lookup s s') (h' : Fills lookup u u') :
    Fills lookup (s ++ u) (s' ++ u') where
  carries := h.carries.append h'
  closed t ht := by
    rw [List.append_assoc]
    exact h.closed _ (h'.closed t ht)

/-- A known placeholder becomes its value. -/
theorem Fills.known {name value : Text} (hname : IsWord name) (hvalue : lookup name = some value) :
    Fills lookup (placeholder name) value where
  carries t _ := substitute_placeholder lookup hname hvalue t
  closed _ _ := closed_at _

/-- A mark that is no known placeholder stays. -/
theorem Fills.mark {m : Text} (hm : '@' ∉ m) (hname : IsWord m → lookup m = none) :
    Fills lookup (placeholder m) (placeholder m) where
  carries _ := substitute_mark hm hname
  closed _ _ := closed_at _

/-- An `@` stays if what follows does not make a placeholder of it. -/
theorem Fills.atSign : Fills lookup ['@'] ['@'] where
  carries _ ht := substitute_at_of_closed ht
  closed t _ := closed_at t

/-- A text without `@` and with a character that no word has stays. -/
theorem Fills.of_break {s : Text} (hat : '@' ∉ s) (hbreak : ∃ c ∈ s, isWordChar c = false) :
    Fills lookup s s where
  carries := by simpa using Carries.append_of_not_mem hat Carries.nil
  closed t _ := closed_of_eq_none (wordBeforeAt?_append_of_break hat hbreak t)

/-- A text stays if it begins like no placeholder that is known. -/
theorem Fills.of_head {c : Char} {s : Text} (hat : '@' ∉ c :: s)
    (hhead : ∀ name, lookup (c :: name) = none) : Fills lookup (c :: s) (c :: s) where
  carries := by simpa using Carries.append_of_not_mem hat Carries.nil
  closed t _ := by
    intro name hname
    obtain ⟨hword, rest, heq⟩ := wordBeforeAt?_eq_some hname
    cases name with
    | nil => exact absurd rfl hword.1
    | cons a name =>
      obtain ⟨rfl, -⟩ := List.cons.inj heq
      exact hhead name

theorem Fills.flatMap {α : Type} {parts : List α} {part part' : α → Text}
    (h : ∀ p ∈ parts, Fills lookup (part p) (part' p)) :
    Fills lookup (parts.flatMap part) (parts.flatMap part') := by
  induction parts with
  | nil => exact Fills.nil
  | cons p parts ih =>
    rw [List.forall_mem_cons] at h
    rw [List.flatMap_cons, List.flatMap_cons]
    exact h.1.append (ih h.2)

end Substitution

end PubList.Template
