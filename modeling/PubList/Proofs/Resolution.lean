import PubList.Proofs.Fragment

/-!
# The resolution of conditionals

`Fragment.resolve_text` is the meaning of conditionals: resolved as flat text, a well-formed
fragment becomes what its tree evaluates to. The step for one conditional is
`resolveLevels_around`; it needs that the searches for the closing mark and for the separator pass
over the branches, which `Fragment.passes_text` gives.
-/

namespace PubList.Template

open Text (IsWord isWordChar cutAt? shift NoHead)

/-! ## Resolution, part by part -/

/-- A text without `@` stays. -/
theorem resolveLevels_append_of_not_mem (e : Entry) (levels : Nat) {s : Text} (h : '@' ∉ s)
    (t : Text) : resolveLevels e levels (s ++ t) = s ++ resolveLevels e levels t := by
  induction s with
  | nil => rfl
  | cons c s ih =>
    rw [List.mem_cons, not_or] at h
    rw [List.cons_append, resolveLevels_cons e levels (fun _ hc => absurd hc (Ne.symm h.1)), ih h.2,
      List.cons_append]

/-- An `@` that begins no conditional stays. -/
theorem resolveLevels_at (e : Entry) (levels : Nat) {t : Text}
    (h : ∀ t', t = '?' :: t' → Conditional.read? t' = none) :
    resolveLevels e levels ('@' :: t) = '@' :: resolveLevels e levels t := by
  by_cases hhead : ∃ t', t = '?' :: t'
  · obtain ⟨t', rfl⟩ := hhead
    have hquestion : resolveLevels e levels ('?' :: t') = '?' :: resolveLevels e levels t' :=
      resolveLevels_cons e levels fun _ hc => absurd hc (by decide)
    rw [resolveLevels_of_read?_eq_none e levels (h t' rfl), hquestion]
  · exact resolveLevels_cons e levels fun t' _ ht => hhead ⟨t', ht⟩

/-- A placeholder stays, if what follows does not make a conditional of its second `@`. -/
theorem resolveLevels_placeholder (e : Entry) (levels : Nat) {name t : Text} (hname : IsWord name)
    (ht : ∀ t', t = '?' :: t' → Conditional.read? t' = none) :
    resolveLevels e levels (placeholder name ++ t) = placeholder name ++ resolveLevels e levels t := by
  have hhead (t' : Text) : name ++ '@' :: t ≠ '?' :: t' := by
    intro h
    cases name with
    | nil => exact absurd rfl hname.1
    | cons c name =>
      obtain ⟨rfl, -⟩ := List.cons.inj h
      exact not_mem_of_isWord hname (by decide) List.mem_cons_self
  rw [placeholder_append, resolveLevels_at e levels fun t' h => absurd h (hhead t'),
    resolveLevels_append_of_not_mem e levels (not_at_mem_of_isWord hname),
    resolveLevels_at e levels ht, placeholder_append]

/-- The body of a conditional and what follows it are parts of the text that it is read from. -/
theorem infix_of_read? {t rest : Text} {c : Conditional} (h : Conditional.read? t = some (c, rest)) :
    c.text <:+: '@' :: '?' :: t ∧ c.body <:+: '@' :: '?' :: t ∧ rest <:+: '@' :: '?' :: t := by
  have htext : '@' :: '?' :: t = c.text ++ rest := Conditional.text_append_of_read? h
  rw [htext]
  have hbody : c.body <:+: c.text := ⟨c.head, Conditional.closer c.field, rfl⟩
  exact ⟨List.infix_append_left .., hbody.trans (List.infix_append_left ..),
    List.infix_append_right ..⟩

theorem branch_infix_body (c : Conditional) (e : Entry) : c.branch e <:+: c.body := by
  rw [Conditional.branch, Conditional.thenPart, Conditional.elsePart]
  cases hcut : Text.cutAt? (Conditional.separator c.field) c.body with
  | none =>
    split
    · exact List.infix_rfl
    · exact List.nil_infix
  | some parts =>
    obtain ⟨yes, no⟩ := parts
    have hbody : c.body = _ := Text.eq_of_cutAt? hcut
    rw [hbody]
    split
    · exact (List.prefix_append yes _).isInfix.trans (List.prefix_append _ no).isInfix
    · exact (List.suffix_append _ no).isInfix

/-- What a conditional becomes, at the given number of levels that are still resolved. -/
def Conditional.outcome (c : Conditional) (e : Entry) : (levels : Nat) → Text
  | 0 => c.text
  | inner + 1 => resolveLevels e inner (c.branch e)

/-- A conditional whose body ends at the first closing mark becomes its outcome. -/
theorem resolveLevels_around (e : Entry) (levels : Nat) {c : Condition} (hc : c.WellFormed)
    {body : Text} (hbody : Passes (';' :: c.field) body) (rest : Text) :
    resolveLevels e levels ((c.around body).text ++ rest) =
      (c.around body).outcome e levels ++ resolveLevels e levels rest := by
  obtain ⟨t, htext, hread⟩ := read?_around hc (hbody.cutAt?_mark (by decide) rest)
  rw [htext]
  cases levels with
  | zero => exact resolveLevels_zero_of_read? e hread
  | succ inner => exact resolveLevels_succ_of_read? e inner hread

/-- Without a separator, the body is the first branch and the second one is empty. -/
theorem branch_around {c : Condition} {body : Text} (hbody : Passes (':' :: c.field) body)
    (e : Entry) : (c.around body).branch e = if c.holds e then body else [] := by
  have hcut : cutAt? (Conditional.separator c.field) body = none := hbody.cutAt?_eq_none
  simp only [Conditional.branch, Condition.holds_around, Conditional.thenPart,
    Conditional.elsePart]
  simp only [Condition.around, hcut]

/-- The first separator divides the body in its branches. -/
theorem branch_around_separator {c : Condition} {yes : Text} (hyes : Passes (':' :: c.field) yes)
    (no : Text) (e : Entry) :
    (c.around (yes ++ Conditional.separator c.field ++ no)).branch e =
      if c.holds e then yes else no := by
  have hcut : cutAt? (Conditional.separator c.field) (yes ++ Conditional.separator c.field ++ no) =
      some (yes, no) := by
    rw [List.append_assoc]
    exact hyes.cutAt?_mark (by decide) no
  simp only [Conditional.branch, Condition.holds_around, Conditional.thenPart,
    Conditional.elsePart]
  simp only [Condition.around, hcut]

namespace Fragment

/-! ## The meaning of conditionals -/

/-- What the marks of a conditional begin with, behind their `@`. -/
def markHeads : List Char := ['?', ':', ';']

/-- Behind a mark, the fragment completes no mark of a conditional that begins there. -/
structure ApartFromMarks (g : Fragment) : Prop where
  noHead : NoHead [':', ';'] g.text
  not_read : ∀ t, g.text = '?' :: t → Conditional.read? t = none

/-- A fragment that does not begin like the inside of a mark can stand behind one. -/
theorem apart_of_noHead {g : Fragment} (h : NoHead markHeads g.text) : g.ApartFromMarks where
  noHead := h.mono (by decide)
  not_read t ht := by
    have hhead : g.text.head? ≠ some '?' := h '?' (by decide)
    rw [ht, List.head?_cons] at hhead
    exact absurd rfl hhead

/-- A search for a mark of a conditional passes over a fragment that has no conditional on its
field. -/
theorem passes_text_of_field {k : Char} (hk : k ∈ [':', ';']) {field : Text} (hword : IsWord field)
    {f : Fragment} (hf : f.WellFormed ('@' ∉ ·)) (hbehind : f.BehindMarks ApartFromMarks)
    (hfield : field ∉ f.fields) : Passes (k :: field) f.text := by
  have hat : k ≠ '@' := by
    rintro rfl
    simp at hk
  exact passes_text hat (not_at_mem_of_isWord hword) hf
    (hbehind.mono fun g hg _ => apart_append (hg.noHead k hk)) (not_mem_marks hk hf hfield)

/-- The body of a conditional with two branches is passed over by the search for its closing mark. -/
theorem passes_branches {c : Condition} (hc : c.WellFormed) {yes no : Fragment}
    (hyes : Passes (';' :: c.field) yes.text) (hno : Passes (';' :: c.field) no.text)
    (hapart : no.ApartFromMarks) :
    Passes (';' :: c.field) (yes.text ++ Conditional.separator c.field ++ no.text) := by
  have hfield : '@' ∉ c.field := not_at_mem_of_isWord hc.1
  have hseparator : Skips (';' :: c.field) (Conditional.separator c.field) :=
    Skips.mark (by decide) hfield (by simp [hfield]) (by simp)
  have hno' : Skips (';' :: c.field) no.text :=
    ⟨hno, fun _ => apart_append (hapart.noHead ';' (by decide))⟩
  rw [List.append_assoc]
  exact hyes.append (hseparator.append hno')

/-- With `levels` levels left to resolve, the text of a fragment becomes what the fragment means
inside the conditionals that are resolved already. -/
theorem resolveLevels_text_of_apart (e : Entry) {f : Fragment} (hf : f.WellFormed ('@' ∉ ·))
    (hbehind : f.BehindMarks ApartFromMarks) {levels enclosing : Nat}
    (hlevels : enclosing + levels = maxDepth) :
    resolveLevels e levels f.text = f.eval e enclosing := by
  induction f generalizing levels enclosing with
  | nil => exact resolveLevels_nil e levels
  | literal t rest ih =>
    rw [text, resolveLevels_append_of_not_mem e levels hf.1, ih hf.2 hbehind hlevels, eval]
  | mark name rest ih =>
    rw [text, resolveLevels_placeholder e levels hf.1 hbehind.1.not_read, ih hf.2 hbehind.2 hlevels,
      eval]
  | ifThen c yes rest ihyes ihrest =>
    obtain ⟨hc, hfield, hyes, hrest⟩ := hf
    obtain ⟨⟨-, hbyes⟩, -, hbrest⟩ := hbehind
    have hclose := passes_text_of_field (k := ';') (by decide) hc.1 hyes hbyes hfield
    have hseparator := passes_text_of_field (k := ':') (by decide) hc.1 hyes hbyes hfield
    rw [text, resolveLevels_around e levels hc hclose, ihrest hrest hbrest hlevels, eval]
    congr 1
    cases levels with
    | zero => rw [if_neg (by omega), text, text, List.append_nil, Conditional.outcome]
    | succ inner =>
      rw [if_pos (by omega), Conditional.outcome, branch_around hseparator]
      split
      · exact ihyes hyes hbyes (by omega)
      · exact resolveLevels_nil e inner
  | ifElse c yes no rest ihyes ihno ihrest =>
    obtain ⟨hc, ⟨hfyes, hfno⟩, hyes, hno, hrest⟩ := hf
    obtain ⟨⟨-, hbyes⟩, ⟨hapart, hbno⟩, -, hbrest⟩ := hbehind
    have hclose := passes_branches hc
      (passes_text_of_field (k := ';') (by decide) hc.1 hyes hbyes hfyes)
      (passes_text_of_field (k := ';') (by decide) hc.1 hno hbno hfno) hapart
    have hseparator := passes_text_of_field (k := ':') (by decide) hc.1 hyes hbyes hfyes
    rw [text, resolveLevels_around e levels hc hclose, ihrest hrest hbrest hlevels, eval]
    congr 1
    cases levels with
    | zero => rw [if_neg (by omega), text, text, List.append_nil, Conditional.outcome]
    | succ inner =>
      rw [if_pos (by omega), Conditional.outcome, branch_around_separator hseparator]
      split
      · exact ihyes hyes hbyes (by omega)
      · exact ihno hno hbno (by omega)

theorem resolveLevels_text (e : Entry) {f : Fragment} (hf : f.WellFormed ('@' ∉ ·))
    (hbehind : f.BehindMarks (NoHead markHeads ·.text)) {levels enclosing : Nat}
    (hlevels : enclosing + levels = maxDepth) :
    resolveLevels e levels f.text = f.eval e enclosing :=
  resolveLevels_text_of_apart e hf (hbehind.mono fun _ => apart_of_noHead) hlevels

/-- **The meaning of conditionals.** A fragment whose literals have no `@` and do not begin like the
inside of a mark is resolved to what its tree means: every conditional inside fewer than `maxDepth`
others is replaced by the branch that the entry chooses, and the deeper ones stay as they are
written. -/
theorem resolve_text (e : Entry) (f : Fragment)
    (hf : f.WellFormed fun t => '@' ∉ t ∧ NoHead markHeads t) : resolve e f.text = f.eval e 0 :=
  resolveLevels_text e (hf.mono fun _ ht => ht.1)
    (noHead_of_literals (by decide) (hf.mono fun _ ht => ht.2)).2 (Nat.zero_add maxDepth)

/-- Names that begin alike, a test that passes and one that fails, two conditionals on one field side by
side, and an empty branch: `@?t@@?tt>=2000@@t@ @:tt@old@;tt@@:t@@;t@@?t!=1@@tt@@:t@no@;t@@tt@`. -/
theorem resolve_text_names_alike :
    resolve ⟨"k".toList, [("t".toList, "1".toList), ("tt".toList, "2020".toList)]⟩
        "@?t@@?tt>=2000@@t@ @:tt@old@;tt@@:t@@;t@@?t!=1@@tt@@:t@no@;t@@tt@".toList =
      "@t@ no@tt@".toList := by
  let f : Fragment :=
    .ifElse ⟨"t".toList, none⟩
      (.ifElse ⟨"tt".toList, some (.atLeast, "2000".toList)⟩
        (.mark "t".toList (.literal " ".toList .nil)) (.literal "old".toList .nil) .nil) .nil
      (.ifElse ⟨"t".toList, some (.notEqual, "1".toList)⟩
        (.mark "tt".toList .nil) (.literal "no".toList .nil) (.mark "tt".toList .nil))
  have htext : f.text =
      "@?t@@?tt>=2000@@t@ @:tt@old@;tt@@:t@@;t@@?t!=1@@tt@@:t@no@;t@@tt@".toList := by decide
  rw [← htext, resolve_text _ f (by decide)]
  decide

end Fragment

end PubList.Template
