import PubList.Proofs.Mark

/-!
# Fragments of an entry template

The tree that the author of an entry template has in mind: literals, placeholders, and conditionals
with one or two branches. The resolution of conditionals never builds it. It pairs an opening mark
with the first closing mark for the same field, and looks for the separator between the two.

A conditional is read as it was written if its body ends at the first closing mark (`read?_around`),
and a search for a mark that a well-formed fragment does not have passes over its text
(`passes_text`).
-/

namespace PubList

namespace Text

/-- The text does not begin with one of the given characters. -/
def NoHead (heads : List Char) (t : Text) : Prop := ∀ c ∈ heads, t.head? ≠ some c

instance (heads : List Char) (t : Text) : Decidable (NoHead heads t) :=
  inferInstanceAs (Decidable (∀ c ∈ heads, t.head? ≠ some c))

theorem noHead_nil (heads : List Char) : NoHead heads [] := by simp [NoHead]

theorem noHead_cons {heads : List Char} {c : Char} (h : c ∉ heads) (t : Text) :
    NoHead heads (c :: t) := by
  intro a ha hc
  rw [List.head?_cons, Option.some.injEq] at hc
  exact h (hc ▸ ha)

theorem NoHead.append {heads : List Char} {s t : Text} (hs : NoHead heads s)
    (ht : NoHead heads t) : NoHead heads (s ++ t) := by
  cases s with
  | nil => exact ht
  | cons c s => exact hs

theorem NoHead.append_of_ne_nil {heads : List Char} {s : Text} (hs : NoHead heads s) (hne : s ≠ [])
    (t : Text) : NoHead heads (s ++ t) := by
  cases s with
  | nil => exact absurd rfl hne
  | cons c s => exact hs

theorem NoHead.mono {heads heads' : List Char} {t : Text} (h : NoHead heads' t)
    (hsub : ∀ c ∈ heads, c ∈ heads') : NoHead heads t :=
  fun c hc => h c (hsub c hc)

end Text

namespace Template

open Text (IsWord isWordChar cutAt? shift NoHead)

/-! ## Conditions -/

/-- What a conditional asks: a field, and a test on its value if there is one. -/
structure Condition where
  field : Text
  /-- The test and the text that the value is tested against. -/
  test : Option (Operator × Text)
  deriving DecidableEq, Repr

namespace Condition

/-- The text of the test in the head of a conditional. -/
def testText (c : Condition) : Text :=
  match c.test with
  | none => []
  | some (op, expected) => op.symbol ++ expected

/-- What stands between the two `@` of the head of a conditional. -/
def question (c : Condition) : Text := '?' :: (c.field ++ c.testText)

/-- The conditional that asks for the condition and has the given body. -/
def around (c : Condition) (body : Text) : Conditional := ⟨c.field, c.test, body⟩

/-- The field is a word, and the text that its value is tested against has no `@`. -/
def WellFormed (c : Condition) : Prop :=
  IsWord c.field ∧
    match c.test with
    | none => True
    | some (_, expected) => '@' ∉ expected

instance (c : Condition) : Decidable c.WellFormed := by
  unfold WellFormed
  cases c.test <;> infer_instance

/-- Whether a value passes the test, if there is one. -/
def passes (c : Condition) (value : Text) : Bool :=
  match c.test with
  | none => true
  | some (op, expected) => op.evaluate value expected

/-- The field is present, neither empty nor `0`, and passes the test. -/
def holds (c : Condition) (e : Entry) : Bool :=
  match e.get? c.field with
  | none => false
  | some value => value ≠ [] && value ≠ ['0'] && c.passes value

theorem text_around (c : Condition) (body : Text) :
    (c.around body).text = placeholder c.question ++ body ++ placeholder (';' :: c.field) := by
  obtain ⟨field, test⟩ := c
  cases test <;>
    simp [around, Conditional.text, Conditional.head, Conditional.opener, Conditional.closer,
      placeholder, question, testText]

theorem holds_around (c : Condition) (body : Text) (e : Entry) :
    (c.around body).holds e = c.holds e := by
  obtain ⟨field, test⟩ := c
  simp only [around, Conditional.holds, Conditional.holdsWith, holds]
  cases e.get? field with
  | none => rfl
  | some value =>
    by_cases hcounts : Conditional.counts value = true
    · have hvalue : value ≠ [] ∧ value ≠ ['0'] := by simpa [Conditional.counts] using hcounts
      cases test <;> simp [Option.filter, hcounts, hvalue, passes, Operator.evaluate]
    · have hvalue : value = [] ∨ value = ['0'] := by
        simpa [Conditional.counts, Classical.or_iff_not_imp_left] using hcounts
      rcases hvalue with rfl | rfl <;> simp [Option.filter, Conditional.counts]

theorem at_not_mem_symbol (op : Operator) : '@' ∉ op.symbol := by
  cases op <;> decide

theorem at_not_mem_question {c : Condition} (hc : c.WellFormed) : '@' ∉ c.question := by
  obtain ⟨field, test⟩ := c
  obtain ⟨hfield, htest⟩ := hc
  have hat := not_at_mem_of_isWord hfield
  cases test with
  | none => simpa [question, testText] using hat
  | some test =>
    obtain ⟨op, expected⟩ := test
    simp only [question, testText, List.mem_cons, List.mem_append, not_or]
    exact ⟨by decide, hat, at_not_mem_symbol op, htest⟩

end Condition

/-! ## Reading the conditional that was written -/

theorem Operator.split?_symbol_append (op : Operator) (t : Text) :
    Operator.split? (op.symbol ++ t) = some (op, t) := by
  cases op <;> simp [Operator.split?, Operator.all, Operator.symbol, Text.dropMark?]

theorem Operator.exists_symbol_eq_cons (op : Operator) :
    ∃ c s, op.symbol = c :: s ∧ c ≠ '@' ∧ isWordChar c = false := by
  cases op <;> exact ⟨_, _, rfl, by decide, by decide⟩

theorem readTest?_testText {c : Condition} (hc : c.WellFormed) (rest : Text) :
    Conditional.readTest? (c.testText ++ '@' :: rest) = some (c.test, rest) := by
  obtain ⟨field, test⟩ := c
  obtain ⟨-, htest⟩ := hc
  cases test with
  | none => rfl
  | some test =>
    obtain ⟨op, expected⟩ := test
    obtain ⟨a, s, hsymbol, ha, -⟩ := op.exists_symbol_eq_cons
    have hsplit := op.split?_symbol_append (expected ++ '@' :: rest)
    have hcut := Text.cutAtChar?_append htest rest
    rw [hsymbol, List.cons_append] at hsplit
    simp only [Condition.testText, List.append_assoc, hsymbol, List.cons_append]
    simp [Conditional.readTest?, ha, hsplit, hcut]

/-- A word is read up to its end if no word character follows. -/
theorem span_word {name t : Text} (hname : IsWord name) (ht : ∀ c ∈ t.head?, isWordChar c = false) :
    (name ++ t).takeWhile isWordChar = name ∧ (name ++ t).dropWhile isWordChar = t := by
  rw [List.takeWhile_append_of_pos hname.2, List.dropWhile_append_of_pos hname.2]
  cases t with
  | nil => simp
  | cons c t =>
    have hc : isWordChar c = false := ht c rfl
    simp [hc]

/-- No word character follows the field in the head of a conditional. -/
theorem Condition.head?_testText (c : Condition) (t : Text) :
    ∀ a ∈ (c.testText ++ '@' :: t).head?, isWordChar a = false := by
  obtain ⟨field, test⟩ := c
  cases test with
  | none => simpa [Condition.testText] using Text.isWordChar_at
  | some test =>
    obtain ⟨op, expected⟩ := test
    obtain ⟨a, s, hsymbol, -, ha⟩ := op.exists_symbol_eq_cons
    simpa [Condition.testText, hsymbol] using ha

/-- A conditional is read as it was written, if its body ends at the first closing mark. -/
theorem read?_around {c : Condition} (hc : c.WellFormed) {body rest : Text}
    (hbody : cutAt? (placeholder (';' :: c.field)) (body ++ (placeholder (';' :: c.field) ++ rest)) =
      some (body, rest)) :
    ∃ t, (c.around body).text ++ rest = '@' :: '?' :: t ∧
      Conditional.read? t = some (c.around body, rest) := by
  refine ⟨c.field ++ (c.testText ++ '@' :: (body ++ (placeholder (';' :: c.field) ++ rest))), ?_, ?_⟩
  · simp [Condition.text_around, placeholder, Condition.question]
  · obtain ⟨htake, hdrop⟩ := span_word hc.1
      (c.head?_testText (body ++ (placeholder (';' :: c.field) ++ rest)))
    have hcut : cutAt? (Conditional.closer c.field) (body ++ (placeholder (';' :: c.field) ++ rest)) =
        some (body, rest) := hbody
    simp only [Conditional.read?, htake, hdrop, readTest?_testText hc, if_neg hc.1.1]
    simp [hcut, Condition.around]

/-! ## Trees -/

/-- A fragment of an entry template: a sequence of literals, placeholders and conditionals. Each
constructor puts one of them in front of the rest. -/
inductive Fragment where
  | nil
  | literal (t : Text) (rest : Fragment)
  | mark (name : Text) (rest : Fragment)
  | ifThen (c : Condition) (yes rest : Fragment)
  | ifElse (c : Condition) (yes no rest : Fragment)
  deriving DecidableEq, Repr

namespace Fragment

/-- The text of a fragment in a template. -/
def text : Fragment → Text
  | nil => []
  | literal t rest => t ++ rest.text
  | mark name rest => placeholder name ++ rest.text
  | ifThen c yes rest => (c.around yes.text).text ++ rest.text
  | ifElse c yes no rest =>
    (c.around (yes.text ++ Conditional.separator c.field ++ no.text)).text ++ rest.text

/-- The fields that the conditionals of a fragment ask for. -/
def fields : Fragment → List Text
  | nil => []
  | literal _ rest => rest.fields
  | mark _ rest => rest.fields
  | ifThen c yes rest => c.field :: (yes.fields ++ rest.fields)
  | ifElse c yes no rest => c.field :: (yes.fields ++ no.fields ++ rest.fields)

/-- How many conditionals lie inside one another. -/
def depth : Fragment → Nat
  | nil => 0
  | literal _ rest => rest.depth
  | mark _ rest => rest.depth
  | ifThen _ yes rest => max (yes.depth + 1) rest.depth
  | ifElse _ yes no rest => max (max yes.depth no.depth + 1) rest.depth

/-- Every literal is as `Literal` says, every name is a word, and no conditional lies inside another
one on the same field. -/
def WellFormed (Literal : Text → Prop) : Fragment → Prop
  | nil => True
  | literal t rest => Literal t ∧ rest.WellFormed Literal
  | mark name rest => IsWord name ∧ rest.WellFormed Literal
  | ifThen c yes rest =>
    c.WellFormed ∧ c.field ∉ yes.fields ∧ yes.WellFormed Literal ∧ rest.WellFormed Literal
  | ifElse c yes no rest =>
    c.WellFormed ∧ (c.field ∉ yes.fields ∧ c.field ∉ no.fields) ∧
      yes.WellFormed Literal ∧ no.WellFormed Literal ∧ rest.WellFormed Literal

instance decidableWellFormed (L : Text → Prop) [DecidablePred L] :
    (f : Fragment) → Decidable (f.WellFormed L)
  | nil => inferInstanceAs (Decidable True)
  | literal t rest =>
    have := decidableWellFormed L rest
    inferInstanceAs (Decidable (L t ∧ rest.WellFormed L))
  | mark name rest =>
    have := decidableWellFormed L rest
    inferInstanceAs (Decidable (IsWord name ∧ rest.WellFormed L))
  | ifThen c yes rest =>
    have := decidableWellFormed L yes
    have := decidableWellFormed L rest
    inferInstanceAs (Decidable (c.WellFormed ∧ c.field ∉ yes.fields ∧ yes.WellFormed L ∧
      rest.WellFormed L))
  | ifElse c yes no rest =>
    have := decidableWellFormed L yes
    have := decidableWellFormed L no
    have := decidableWellFormed L rest
    inferInstanceAs (Decidable (c.WellFormed ∧ (c.field ∉ yes.fields ∧ c.field ∉ no.fields) ∧
      yes.WellFormed L ∧ no.WellFormed L ∧ rest.WellFormed L))

/-- What a fragment means for an entry, inside `enclosing` conditionals: its conditionals are
replaced by the branches that the entry chooses, except those that lie inside `maxDepth` others. -/
def eval (e : Entry) : (enclosing : Nat) → Fragment → Text
  | _, nil => []
  | enclosing, literal t rest => t ++ rest.eval e enclosing
  | enclosing, mark name rest => placeholder name ++ rest.eval e enclosing
  | enclosing, ifThen c yes rest =>
    (if enclosing < maxDepth then
        if c.holds e then yes.eval e (enclosing + 1) else []
      else (ifThen c yes nil).text) ++ rest.eval e enclosing
  | enclosing, ifElse c yes no rest =>
    (if enclosing < maxDepth then
        if c.holds e then yes.eval e (enclosing + 1) else no.eval e (enclosing + 1)
      else (ifElse c yes no nil).text) ++ rest.eval e enclosing

theorem WellFormed.mono {L L' : Text → Prop} (hL : ∀ t, L t → L' t) {f : Fragment}
    (h : f.WellFormed L) : f.WellFormed L' := by
  induction f with
  | nil => trivial
  | literal t rest ih => exact ⟨hL t h.1, ih h.2⟩
  | mark name rest ih => exact ⟨h.1, ih h.2⟩
  | ifThen c yes rest ihyes ihrest => exact ⟨h.1, h.2.1, ihyes h.2.2.1, ihrest h.2.2.2⟩
  | ifElse c yes no rest ihyes ihno ihrest =>
    exact ⟨h.1, h.2.1, ihyes h.2.2.1, ihno h.2.2.2.1, ihrest h.2.2.2.2⟩

/-! ## What stands behind a mark -/

/-- Behind every mark of a fragment, the rest of the sequence that the mark stands in is as `P`
says. -/
def BehindMarks (P : Fragment → Prop) : Fragment → Prop
  | nil => True
  | literal _ rest => rest.BehindMarks P
  | mark _ rest => P rest ∧ rest.BehindMarks P
  | ifThen _ yes rest => (P yes ∧ yes.BehindMarks P) ∧ P rest ∧ rest.BehindMarks P
  | ifElse _ yes no rest =>
    (P yes ∧ yes.BehindMarks P) ∧ (P no ∧ no.BehindMarks P) ∧ P rest ∧ rest.BehindMarks P

theorem BehindMarks.mono {P Q : Fragment → Prop} (hPQ : ∀ g, P g → Q g) {f : Fragment}
    (h : f.BehindMarks P) : f.BehindMarks Q := by
  induction f with
  | nil => trivial
  | literal t rest ih => exact ih h
  | mark name rest ih => exact ⟨hPQ _ h.1, ih h.2⟩
  | ifThen c yes rest ihyes ihrest =>
    exact ⟨⟨hPQ _ h.1.1, ihyes h.1.2⟩, hPQ _ h.2.1, ihrest h.2.2⟩
  | ifElse c yes no rest ihyes ihno ihrest =>
    exact ⟨⟨hPQ _ h.1.1, ihyes h.1.2⟩, ⟨hPQ _ h.2.1.1, ihno h.2.1.2⟩, hPQ _ h.2.2.1,
      ihrest h.2.2.2⟩

/-- A fragment whose literals do not begin with one of the given characters does not either, and
neither does what stands behind its marks. -/
theorem noHead_of_literals {heads : List Char} (hat : '@' ∉ heads) {f : Fragment}
    (h : f.WellFormed (NoHead heads)) :
    NoHead heads f.text ∧ f.BehindMarks (NoHead heads ·.text) := by
  induction f with
  | nil => exact ⟨Text.noHead_nil heads, trivial⟩
  | literal t rest ih =>
    obtain ⟨hrest, hbehind⟩ := ih h.2
    exact ⟨h.1.append hrest, hbehind⟩
  | mark name rest ih =>
    exact ⟨Text.noHead_cons hat _, ih h.2⟩
  | ifThen c yes rest ihyes ihrest =>
    exact ⟨Text.noHead_cons hat _, ihyes h.2.2.1, ihrest h.2.2.2⟩
  | ifElse c yes no rest ihyes ihno ihrest =>
    exact ⟨Text.noHead_cons hat _, ihyes h.2.2.1, ihno h.2.2.2.1, ihrest h.2.2.2.2⟩

/-! ## Searching in a fragment -/

/-- What stands between the two `@` of each mark of a fragment. -/
def marks : Fragment → List Text
  | nil => []
  | literal _ rest => rest.marks
  | mark name rest => name :: rest.marks
  | ifThen c yes rest => c.question :: (yes.marks ++ (';' :: c.field) :: rest.marks)
  | ifElse c yes no rest =>
    c.question :: (yes.marks ++ (':' :: c.field) :: (no.marks ++ (';' :: c.field) :: rest.marks))

theorem text_ifThen (c : Condition) (yes rest : Fragment) :
    (ifThen c yes rest).text =
      placeholder c.question ++ (yes.text ++ (placeholder (';' :: c.field) ++ rest.text)) := by
  simp [text, Condition.text_around]

theorem text_ifElse (c : Condition) (yes no rest : Fragment) :
    (ifElse c yes no rest).text =
      placeholder c.question ++ (yes.text ++ (placeholder (':' :: c.field) ++ (no.text ++
        (placeholder (';' :: c.field) ++ rest.text)))) := by
  have hseparator : Conditional.separator c.field = placeholder (':' :: c.field) := rfl
  simp [text, Condition.text_around, hseparator]

/-- A search for a mark that a fragment does not have passes over the fragment, if nothing that
stands behind a mark of the fragment completes it. -/
theorem passes_text {a : Char} {m : Text} (ha : a ≠ '@') (hm : '@' ∉ m) {f : Fragment}
    (hf : f.WellFormed ('@' ∉ ·))
    (hbehind : f.BehindMarks fun g => ∀ t, Apart (a :: m) t → Apart (a :: m) (g.text ++ t))
    (hmarks : a :: m ∉ f.marks) : Passes (a :: m) f.text := by
  have skips {s : Text} (hpass : Passes (a :: m) s)
      (hapart : ∀ t, Apart (a :: m) t → Apart (a :: m) (s ++ t)) : Skips (a :: m) s :=
    ⟨hpass, hapart⟩
  have skipsMark {n : Text} (hn : '@' ∉ n) (hne : a :: m ≠ n) : Skips (a :: m) (placeholder n) :=
    Skips.mark ha hm hn (Ne.symm hne)
  induction f with
  | nil => exact Passes.nil _
  | literal t rest ih =>
    exact Passes.append_of_not_mem hf.1 (ih hf.2 hbehind hmarks)
  | mark name rest ih =>
    simp only [marks, List.mem_cons, not_or] at hmarks
    exact (skipsMark (not_at_mem_of_isWord hf.1) hmarks.1).passes.append
      (skips (ih hf.2 hbehind.2 hmarks.2) hbehind.1)
  | ifThen c yes rest ihyes ihrest =>
    simp only [marks, List.mem_cons, List.mem_append, not_or] at hmarks
    obtain ⟨hquestion, hyes, hclose, hrest⟩ := hmarks
    have hfield : '@' ∉ ';' :: c.field := by simp [not_at_mem_of_isWord hf.1.1]
    rw [text_ifThen]
    exact (skipsMark (Condition.at_not_mem_question hf.1) hquestion).passes.append <|
      (skips (ihyes hf.2.2.1 hbehind.1.2 hyes) hbehind.1.1).append <|
      (skipsMark hfield hclose).append <|
      skips (ihrest hf.2.2.2 hbehind.2.2 hrest) hbehind.2.1
  | ifElse c yes no rest ihyes ihno ihrest =>
    simp only [marks, List.mem_cons, List.mem_append, not_or] at hmarks
    obtain ⟨hquestion, hyes, hseparator, hno, hclose, hrest⟩ := hmarks
    have hfield : '@' ∉ c.field := not_at_mem_of_isWord hf.1.1
    rw [text_ifElse]
    exact (skipsMark (Condition.at_not_mem_question hf.1) hquestion).passes.append <|
      (skips (ihyes hf.2.2.1 hbehind.1.2 hyes) hbehind.1.1).append <|
      (skipsMark (by simp [hfield]) hseparator).append <|
      (skips (ihno hf.2.2.2.1 hbehind.2.1.2 hno) hbehind.2.1.1).append <|
      (skipsMark (by simp [hfield]) hclose).append <|
      skips (ihrest hf.2.2.2.2 hbehind.2.2.2 hrest) hbehind.2.2.1

/-- The closing marks and the separators of a fragment are those for its fields. -/
theorem not_mem_marks {k : Char} (hk : k ∈ [':', ';']) {field : Text} {f : Fragment}
    {L : Text → Prop} (hf : f.WellFormed L) (hfield : field ∉ f.fields) : k :: field ∉ f.marks := by
  have hquestion (c : Condition) : k :: field ≠ c.question := by
    rw [Condition.question]
    rintro h
    obtain ⟨rfl, -⟩ := List.cons.inj h
    simp at hk
  have hfields {k' : Char} {g : Text} (hg : field ≠ g) : k :: field ≠ k' :: g :=
    fun h => hg (List.cons.inj h).2
  have hkword : isWordChar k = false := by
    have hall : ∀ k ∈ [':', ';'], isWordChar k = false := by decide
    exact hall k hk
  induction f with
  | nil => simp [marks]
  | literal t rest ih => exact ih hf.2 hfield
  | mark name rest ih =>
    have hname : k :: field ≠ name := by
      rintro rfl
      exact not_mem_of_isWord hf.1 hkword List.mem_cons_self
    simp only [marks, List.mem_cons, not_or]
    exact ⟨hname, ih hf.2 hfield⟩
  | ifThen c yes rest ihyes ihrest =>
    simp only [fields, List.mem_cons, List.mem_append, not_or] at hfield
    obtain ⟨hc, hyes, hrest⟩ := hfield
    simp only [marks, List.mem_cons, List.mem_append, not_or]
    exact ⟨hquestion c, ihyes hf.2.2.1 hyes, hfields hc, ihrest hf.2.2.2 hrest⟩
  | ifElse c yes no rest ihyes ihno ihrest =>
    simp only [fields, List.mem_cons, List.mem_append, not_or] at hfield
    obtain ⟨hc, ⟨hyes, hno⟩, hrest⟩ := hfield
    simp only [marks, List.mem_cons, List.mem_append, not_or]
    exact ⟨hquestion c, ihyes hf.2.2.1 hyes, hfields hc, ihno hf.2.2.2.1 hno, hfields hc,
      ihrest hf.2.2.2.2 hrest⟩

/-- No mark of a fragment begins like the marker of a block. -/
theorem not_mem_marks_of_brace {k : Char} (hk : k ∈ braces) {m : Text} {f : Fragment}
    {L : Text → Prop} (hf : f.WellFormed L) : k :: m ∉ f.marks := by
  have hne {c : Char} (hc : c ∉ braces) (m' : Text) : k :: m ≠ c :: m' := by
    intro h
    rw [(List.cons.inj h).1] at hk
    exact hc hk
  induction f with
  | nil => simp [marks]
  | literal t rest ih => exact ih hf.2
  | mark name rest ih =>
    have hname : k :: m ≠ name := by
      rintro rfl
      exact not_mem_of_isWord hf.1 (not_word_of_mem_braces hk).2 List.mem_cons_self
    simp only [marks, List.mem_cons, not_or]
    exact ⟨hname, ih hf.2⟩
  | ifThen c yes rest ihyes ihrest =>
    simp only [marks, List.mem_cons, List.mem_append, not_or]
    exact ⟨hne (by decide) _, ihyes hf.2.2.1, hne (by decide) _, ihrest hf.2.2.2⟩
  | ifElse c yes no rest ihyes ihno ihrest =>
    simp only [marks, List.mem_cons, List.mem_append, not_or]
    exact ⟨hne (by decide) _, ihyes hf.2.2.1, hne (by decide) _, ihno hf.2.2.2.1, hne (by decide) _,
      ihrest hf.2.2.2.2⟩

end Fragment

end Template

end PubList
