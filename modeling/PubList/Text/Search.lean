import PubList.Text.Basic

/-!
# Searching in a text

A search cuts a text in parts instead of giving a position: what stands before the first
occurrence of a mark, and what follows it. The lemmas say that nothing is lost by a cut.
-/

namespace PubList.Text

/-- What follows `mark` at the start of a text that starts with it. -/
def dropMark? : (mark t : Text) → Option Text
  | [], t => some t
  | _ :: _, [] => none
  | m :: mark, c :: t => if m = c then dropMark? mark t else none

@[simp] theorem dropMark?_append (mark t : Text) : dropMark? mark (mark ++ t) = some t := by
  induction mark with
  | nil => rfl
  | cons m mark ih => simpa [dropMark?] using ih

theorem dropMark?_eq_some {mark t rest : Text} :
    dropMark? mark t = some rest ↔ t = mark ++ rest := by
  constructor
  · intro h
    induction mark generalizing t with
    | nil => simpa [dropMark?] using h
    | cons m mark ih =>
      cases t with
      | nil => simp [dropMark?] at h
      | cons c t =>
        simp only [dropMark?] at h
        split at h
        · next hc => simp [hc, ih h]
        · simp at h
  · rintro rfl
    exact dropMark?_append mark rest

/-- Cuts a text at the first occurrence of `mark`: what stands before it and what follows it. -/
def cutAt? (mark : Text) : Text → Option (Text × Text)
  | [] => (dropMark? mark []).map ([], ·)
  | c :: t =>
    match dropMark? mark (c :: t) with
    | some rest => some ([], rest)
    | none => (cutAt? mark t).map fun (before, after) => (c :: before, after)

/-- The two sides of a cut, with the mark between them, are the whole text. -/
theorem eq_of_cutAt? {mark t before after : Text} (h : cutAt? mark t = some (before, after)) :
    t = before ++ mark ++ after := by
  induction t generalizing before with
  | nil =>
    obtain ⟨rest, hrest, heq⟩ := Option.map_eq_some_iff.1 h
    cases heq
    simpa using dropMark?_eq_some.1 hrest
  | cons c t ih =>
    simp only [cutAt?] at h
    split at h
    · next rest hrest =>
      cases h
      simpa using dropMark?_eq_some.1 hrest
    · obtain ⟨⟨b, a⟩, hcut, heq⟩ := Option.map_eq_some_iff.1 h
      cases heq
      simp [ih hcut]

theorem length_of_cutAt? {mark t before after : Text} (h : cutAt? mark t = some (before, after)) :
    t.length = before.length + mark.length + after.length := by
  simp [eq_of_cutAt? h, Nat.add_assoc]

/-- Whether `mark` occurs in a text. -/
def contains (t mark : Text) : Bool := (cutAt? mark t).isSome

/-- Cuts a text at the first occurrence of a character. -/
def cutAtChar? (c : Char) (t : Text) : Option (Text × Text) := cutAt? [c] t

/-- The parts of a text between the characters that satisfy `p`, empty parts included. -/
def splitWhere (p : Char → Bool) : Text → List Text
  | [] => [[]]
  | c :: t =>
    if p c then [] :: splitWhere p t
    else
      match splitWhere p t with
      | [] => [[c]]
      | part :: parts => (c :: part) :: parts

theorem splitWhere_ne_nil (p : Char → Bool) (t : Text) : splitWhere p t ≠ [] := by
  cases t with
  | nil => simp [splitWhere]
  | cons c t =>
    simp only [splitWhere]
    split
    · simp
    · split <;> simp

/-- Splitting at a separator between two texts splits both. -/
theorem splitWhere_append (p : Char → Bool) (s t : Text) (c : Char) (h : p c = true) :
    splitWhere p (s ++ c :: t) = splitWhere p s ++ splitWhere p t := by
  induction s with
  | nil => simp [splitWhere, h]
  | cons a s ih =>
    simp only [List.cons_append, splitWhere, ih]
    split
    · simp
    · cases hs : splitWhere p s with
      | nil => exact absurd hs (splitWhere_ne_nil p s)
      | cons part parts => simp

end PubList.Text
