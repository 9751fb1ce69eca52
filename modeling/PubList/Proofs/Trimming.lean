import Mathlib.Data.List.DropRight
import PubList.Text.Blank

/-!
# Trimming

What is trimmed stands at the ends of a text: characters of the kind that is trimmed may be put in front
of a text or behind it (`trimWhere_append_left`, `trimWhere_append_right`), and a text without them at
its ends stays as it is (`trimWhere_of_ends`).
-/

namespace PubList.Text

variable {p : Char → Bool}

theorem trimWhere_append_left {u : Text} (hu : ∀ c ∈ u, p c = true) (t : Text) :
    trimWhere p (u ++ t) = trimWhere p t := by
  rw [trimWhere, trimStartWhere, List.dropWhile_append_of_pos hu]
  rfl

theorem trimEndWhere_append {u : Text} (hu : ∀ c ∈ u, p c = true) (t : Text) :
    trimEndWhere p (t ++ u) = trimEndWhere p t := by
  have hreverse : ∀ c ∈ u.reverse, p c = true := fun c hc => hu c (List.mem_reverse.1 hc)
  rw [trimEndWhere, List.reverse_append, List.dropWhile_append_of_pos hreverse]
  rfl

theorem trimWhere_append_right {u : Text} (hu : ∀ c ∈ u, p c = true) (t : Text) :
    trimWhere p (t ++ u) = trimWhere p t := by
  rw [trimWhere, trimWhere, trimStartWhere, trimStartWhere, List.dropWhile_append]
  split
  · next hempty =>
    have hnil : u.dropWhile p = [] := List.dropWhile_eq_nil_iff.2 hu
    rw [List.isEmpty_iff.1 hempty, hnil]
  · exact trimEndWhere_append hu _

theorem dropWhile_of_head {t : Text} (h : ∀ c ∈ t.head?, p c = false) : t.dropWhile p = t := by
  cases t with
  | nil => rfl
  | cons c t => rw [List.dropWhile_cons, h c rfl, if_neg Bool.false_ne_true]

/-- A text stays if neither its first nor its last character is trimmed. -/
theorem trimWhere_of_ends {t : Text} (hhead : ∀ c ∈ t.head?, p c = false)
    (hlast : ∀ c ∈ t.getLast?, p c = false) : trimWhere p t = t := by
  have hreverse : ∀ c ∈ t.reverse.head?, p c = false := by rwa [List.head?_reverse]
  rw [trimWhere, trimStartWhere, dropWhile_of_head hhead, trimEndWhere, dropWhile_of_head hreverse,
    List.reverse_reverse]

/-- A text without the characters that are trimmed stays. -/
theorem trimWhere_eq_self {t : Text} (h : ∀ c ∈ t, p c = false) : trimWhere p t = t :=
  trimWhere_of_ends (fun c hc => h c (List.mem_of_head? hc)) fun c hc => h c (List.mem_of_getLast? hc)

theorem trimEndWhere_isPrefix (p : Char → Bool) (t : Text) : trimEndWhere p t <+: t :=
  List.rdropWhile_prefix p t

/-- A trimmed text does not begin with a character that is trimmed. -/
theorem head?_trimWhere {t : Text} : ∀ c ∈ (trimWhere p t).head?, p c = false := by
  intro c hc
  obtain ⟨rest, hrest⟩ := trimEndWhere_isPrefix p (trimStartWhere p t)
  have hhead : (t.dropWhile p).head? = some c := by
    show (trimStartWhere p t).head? = some c
    rw [← hrest, List.head?_append]
    show ((trimWhere p t).head?.or _) = some c
    rw [Option.mem_def.1 hc, Option.some_or]
  have hnot := List.head?_dropWhile_not p t
  rw [hhead] at hnot
  exact hnot

/-- A trimmed text has characters of the text only. -/
theorem mem_of_mem_trimWhere {t : Text} {c : Char} (hc : c ∈ trimWhere p t) : c ∈ t :=
  (List.dropWhile_suffix p).subset ((trimEndWhere_isPrefix p _).subset hc)

/-- A character that is not trimmed stays in the text. -/
theorem mem_trimWhere {t : Text} {c : Char} (hc : c ∈ t) (h : p c = false) : c ∈ trimWhere p t := by
  have hdrop {s : Text} (hs : c ∈ s) : c ∈ s.dropWhile p := by
    rw [← List.takeWhile_append_dropWhile (p := p) (l := s)] at hs
    rcases List.mem_append.1 hs with hs | hs
    · rw [List.all_eq_true.1 List.all_takeWhile c hs] at h
      cases h
    · exact hs
  exact List.mem_reverse.2 (hdrop (List.mem_reverse.2 (hdrop hc)))

/-- A text is a text that is not trimmed at its end, and what is trimmed there. -/
theorem exists_trimmed_end (p : Char → Bool) (t : Text) :
    ∃ s u, t = s ++ u ∧ (∀ c ∈ u, p c = true) ∧ ∀ c ∈ s.getLast?, p c = false := by
  have hsplit := List.takeWhile_append_dropWhile (p := p) (l := t.reverse)
  refine ⟨(t.reverse.dropWhile p).reverse, (t.reverse.takeWhile p).reverse, ?_, ?_, ?_⟩
  · rw [← List.reverse_append, hsplit, List.reverse_reverse]
  · exact fun c hc => List.all_eq_true.1 List.all_takeWhile c (List.mem_reverse.1 hc)
  · intro c hc
    rw [List.getLast?_reverse] at hc
    have hhead := List.head?_dropWhile_not p t.reverse
    rw [hc] at hhead
    exact hhead

end PubList.Text
