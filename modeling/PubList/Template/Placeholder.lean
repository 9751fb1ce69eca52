import PubList.Text.Search

/-!
# Placeholders

A placeholder is a word between two `@`. A pass replaces the placeholders that it knows, from left
to right, and never reads what it has inserted: a value can contain any text.
-/

namespace PubList.Template

/-- The placeholder with the given name. -/
def placeholder (name : Text) : Text := '@' :: name ++ ['@']

/-- The word at the start of a text, if `@` follows it. -/
def wordBeforeAt? (t : Text) : Option Text :=
  match t.dropWhile Text.isWordChar with
  | '@' :: _ => if t.takeWhile Text.isWordChar = [] then none else t.takeWhile Text.isWordChar
  | _ => none

/-- Replaces every placeholder that `lookup` knows by its value. All else stays as it is; the `@`
that closes an unknown word may open the next placeholder. -/
def substitute (lookup : Text → Option Text) : Text → Text
  | [] => []
  | c :: t =>
    if c = '@' then
      match wordBeforeAt? t with
      | some name =>
        match lookup name with
        | some value => value ++ substitute lookup (t.drop (name.length + 1))
        | none => c :: substitute lookup t
      | none => c :: substitute lookup t
    else c :: substitute lookup t
termination_by t => t.length

theorem wordBeforeAt?_eq_some {t name : Text} (h : wordBeforeAt? t = some name) :
    Text.IsWord name ∧ ∃ rest, t = name ++ '@' :: rest := by
  have hsplit := List.takeWhile_append_dropWhile (p := Text.isWordChar) (l := t)
  have hword := List.all_takeWhile (p := Text.isWordChar) (l := t)
  unfold wordBeforeAt? at h
  split at h
  · next rest hdrop =>
    rw [hdrop] at hsplit
    split at h
    · simp at h
    · next hne =>
      cases h
      exact ⟨⟨hne, List.all_eq_true.1 hword⟩, rest, hsplit.symm⟩
  · simp at h

theorem wordBeforeAt?_append {name rest : Text} (h : Text.IsWord name) :
    wordBeforeAt? (name ++ '@' :: rest) = some name := by
  have htake : (name ++ '@' :: rest).takeWhile Text.isWordChar = name := by
    rw [List.takeWhile_append_of_pos h.2]
    simp [Text.isWordChar_at]
  have hdrop : (name ++ '@' :: rest).dropWhile Text.isWordChar = '@' :: rest := by
    rw [List.dropWhile_append_of_pos h.2]
    simp [Text.isWordChar_at]
  simp [wordBeforeAt?, htake, hdrop, h.1]

@[simp] theorem substitute_nil (lookup : Text → Option Text) : substitute lookup [] = [] := by
  simp [substitute]

/-- A character that is not an `@` stays. -/
theorem substitute_cons_of_ne (lookup : Text → Option Text) {c : Char} (h : c ≠ '@') (t : Text) :
    substitute lookup (c :: t) = c :: substitute lookup t := by
  simp [substitute, h]

/-- A known placeholder becomes its value, and the pass goes on behind it. -/
theorem substitute_placeholder (lookup : Text → Option Text) {name value : Text}
    (hname : Text.IsWord name) (hvalue : lookup name = some value) (t : Text) :
    substitute lookup (placeholder name ++ t) = value ++ substitute lookup t := by
  simp [placeholder, substitute, wordBeforeAt?_append hname, hvalue]

end PubList.Template
