import PubList.Entry.Basic
import PubList.Template.Operator

/-!
# Conditionals

A conditional asks for a field, with or without a test on its value, and holds a text for either
answer. The conditionals of a template are resolved from left to right and from the outside in;
what cannot be read as a conditional stays as it is.
-/

namespace PubList.Template

/-- A conditional as it is written. -/
structure Conditional where
  field : Text
  /-- The test and the text that the value is tested against. -/
  test : Option (Operator × Text)
  /-- The text between the head and the closing mark, with both branches. -/
  body : Text
  deriving DecidableEq, Repr

namespace Conditional

def opener : Text := "@?".toList

/-- The mark that closes a conditional on a field. -/
def closer (field : Text) : Text := '@' :: ';' :: field ++ ['@']

/-- The mark between the two branches of a conditional on a field. -/
def separator (field : Text) : Text := '@' :: ':' :: field ++ ['@']

/-- The head of a conditional, up to its body. -/
def head (c : Conditional) : Text :=
  opener ++ c.field ++
    (match c.test with
      | none => []
      | some (op, expected) => op.symbol ++ expected) ++ ['@']

/-- A conditional in text. -/
def text (c : Conditional) : Text := c.head ++ c.body ++ closer c.field

/-- The branch for a condition that holds. -/
def thenPart (c : Conditional) : Text :=
  match Text.cutAt? (separator c.field) c.body with
  | some (thenPart, _) => thenPart
  | none => c.body

/-- The branch for a condition that does not hold, empty if none is written. -/
def elsePart (c : Conditional) : Text :=
  match Text.cutAt? (separator c.field) c.body with
  | some (_, elsePart) => elsePart
  | none => []

/-- The test of a head, read behind the name of the field: nothing, or an operator and a text up to
the next `@`. The second part is what follows the head. -/
def readTest? (t : Text) : Option (Option (Operator × Text) × Text) :=
  match t with
  | '@' :: rest => some (none, rest)
  | t => do
    let (op, t) ← Operator.split? t
    let (expected, rest) ← Text.cutAtChar? '@' t
    return (some (op, expected), rest)

/-- Reads a conditional behind its opening mark: the conditional and what follows it. Its body ends
at the first closing mark for its field. -/
def read? (t : Text) : Option (Conditional × Text) :=
  let field := t.takeWhile Text.isWordChar
  if field = [] then none
  else do
    let (test, rest) ← readTest? (t.dropWhile Text.isWordChar)
    let (body, rest) ← Text.cutAt? (closer field) rest
    return (⟨field, test, body⟩, rest)

/-- Empty values and `0` count as absent. -/
def counts (value : Text) : Bool := value ≠ [] && value ≠ ['0']

/-- Whether the condition holds for an entry, where `compile` makes a pattern of a text and `isMatch`
looks for it in a value. -/
def holdsWith {R : Type} (compile : Text → Option R) (isMatch : R → Text → Bool) (c : Conditional)
    (e : Entry) : Bool :=
  match (e.get? c.field).filter counts with
  | none => false
  | some value =>
    match c.test with
    | none => true
    | some (op, expected) => op.evaluateWith compile isMatch value expected

/-- Whether the condition holds for an entry. -/
def holds (c : Conditional) (e : Entry) : Bool :=
  c.holdsWith Pattern.compile? Pattern.isMatch e

/-- The branch that a conditional chooses for an entry. -/
def branch (c : Conditional) (e : Entry) : Text := if c.holds e then c.thenPart else c.elsePart

theorem eq_of_split? {t rest : Text} {op : Operator} (h : Operator.split? t = some (op, rest)) :
    t = op.symbol ++ rest := by
  obtain ⟨op', -, hop⟩ := List.exists_of_findSome?_eq_some h
  obtain ⟨rest', hrest, heq⟩ := Option.map_eq_some_iff.1 hop
  cases heq
  exact Text.dropMark?_eq_some.1 hrest

/-- A conditional that is read, followed by the rest, is the text with its opening mark. -/
theorem text_append_of_read? {t rest : Text} {c : Conditional} (h : read? t = some (c, rest)) :
    opener ++ t = c.text ++ rest := by
  have hsplit := List.takeWhile_append_dropWhile (p := Text.isWordChar) (l := t)
  simp only [read?] at h
  generalize t.takeWhile Text.isWordChar = field at h hsplit
  generalize t.dropWhile Text.isWordChar = behind at h hsplit
  subst hsplit
  split at h
  · simp at h
  simp only [Option.bind_eq_bind, Option.bind_eq_some_iff] at h
  obtain ⟨⟨test, afterHead⟩, htest, ⟨body, after⟩, hbody, heq⟩ := h
  cases heq
  have hafter : afterHead = _ := Text.eq_of_cutAt? hbody
  unfold readTest? at htest
  split at htest
  · cases htest
    simp [text, head, hafter]
  · simp only [Option.bind_eq_bind, Option.bind_eq_some_iff] at htest
    obtain ⟨⟨op, t'⟩, hop, ⟨expected, rest'⟩, hexpected, heq⟩ := htest
    cases heq
    replace hafter : rest' = _ := hafter
    have ht' : t' = _ := Text.eq_of_cutAt? hexpected
    simp [text, head, eq_of_split? hop, ht', hafter]

theorem length_lt_of_read? {t rest : Text} {c : Conditional} (h : read? t = some (c, rest)) :
    rest.length < t.length := by
  have hlength := congrArg List.length (text_append_of_read? h)
  simp [text, head, opener, closer] at hlength
  omega

end Conditional

/-- How many levels of conditionals inside one another are resolved. -/
def maxDepth : Nat := 64

/-- Resolves conditionals down to the given number of levels; deeper ones stay as they are. -/
def resolveLevels (e : Entry) : (levels : Nat) → Text → Text
  | _, [] => []
  | levels, '@' :: '?' :: t =>
    match _h : Conditional.read? t with
    | none => '@' :: '?' :: resolveLevels e levels t
    | some (c, rest) =>
      (match levels with
        | 0 => c.text
        | inner + 1 => resolveLevels e inner (c.branch e)) ++ resolveLevels e levels rest
  | levels, c :: t => c :: resolveLevels e levels t
termination_by levels t => (levels, t.length)
decreasing_by
  all_goals simp_wf
  · exact .right _ (by omega)
  · exact .left _ _ (by omega)
  · have := Conditional.length_lt_of_read? _h
    exact .right _ (by omega)
  · exact .right _ (by omega)

@[simp] theorem resolveLevels_nil (e : Entry) (levels : Nat) : resolveLevels e levels [] = [] := by
  rw [resolveLevels]

theorem resolveLevels_of_read?_eq_none (e : Entry) (levels : Nat) {t : Text}
    (h : Conditional.read? t = none) :
    resolveLevels e levels ('@' :: '?' :: t) = '@' :: '?' :: resolveLevels e levels t := by
  rw [resolveLevels]
  split
  · rfl
  · next h' => simp [h] at h'

/-- Below the last level a conditional stays as it is. -/
theorem resolveLevels_zero_of_read? (e : Entry) {t rest : Text} {c : Conditional}
    (h : Conditional.read? t = some (c, rest)) :
    resolveLevels e 0 ('@' :: '?' :: t) = c.text ++ resolveLevels e 0 rest := by
  rw [resolveLevels]
  split
  · next h' => simp [h] at h'
  · next h' =>
    cases h.symm.trans h'
    rfl

theorem resolveLevels_succ_of_read? (e : Entry) (levels : Nat) {t rest : Text} {c : Conditional}
    (h : Conditional.read? t = some (c, rest)) :
    resolveLevels e (levels + 1) ('@' :: '?' :: t) =
      resolveLevels e levels (c.branch e) ++ resolveLevels e (levels + 1) rest := by
  rw [resolveLevels]
  split
  · next h' => simp [h] at h'
  · next h' =>
    cases h.symm.trans h'
    rfl

theorem resolveLevels_cons (e : Entry) (levels : Nat) {c : Char} {t : Text}
    (h : ∀ t', c = '@' → t ≠ '?' :: t') :
    resolveLevels e levels (c :: t) = c :: resolveLevels e levels t := by
  rw [resolveLevels]
  exact h

/-- Resolves every conditional of a template for an entry. -/
def resolve (e : Entry) (t : Text) : Text := resolveLevels e maxDepth t

end PubList.Template
