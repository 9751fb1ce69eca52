import PubList.Proofs.Resolution

/-!
# Filling the placeholders of a fragment

A pass over a fragment replaces the placeholders that it knows by literals. On the flat text it
could also find names that nobody wrote: a literal, or a value that an earlier pass has put in, that
happens to stand between two `@`. `Fragment.Guarded` excludes it. What follows a mark without
another mark in between is empty, or holds a character that no word has.

`carries_text` is the pass over a fragment, and `fills_eval` the pass over what its conditionals
leave. Together with the resolution of the conditionals they are the rendering of an entry
(`renderEntry_eq_denote`).
-/

namespace PubList.Template

open Text (IsWord isWordChar NoHead)

/-- The text for a placeholder: its value, or the placeholder itself if it is not known. -/
def shown (known : Text → Option Text) (name : Text) : Text := (known name).getD (placeholder name)

/-- The values that are known to one of two passes. -/
def firstOf (known known' : Text → Option Text) (name : Text) : Option Text :=
  (known name).or (known' name)

namespace Fragment

/-- A fragment with the placeholders that `lookup` knows replaced by their values. -/
def fill (lookup : Text → Option Text) : Fragment → Fragment
  | nil => nil
  | literal t rest => literal t (rest.fill lookup)
  | mark name rest =>
    match lookup name with
    | some value => literal value (rest.fill lookup)
    | none => mark name (rest.fill lookup)
  | ifThen c yes rest => ifThen c (yes.fill lookup) (rest.fill lookup)
  | ifElse c yes no rest => ifElse c (yes.fill lookup) (no.fill lookup) (rest.fill lookup)

/-- What a fragment means for an entry when every conditional is replaced by a branch and every
placeholder that `value` knows by its value. -/
def denote (value : Text → Option Text) (e : Entry) : Fragment → Text
  | nil => []
  | literal t rest => t ++ rest.denote value e
  | mark name rest => shown value name ++ rest.denote value e
  | ifThen c yes rest =>
    (if c.holds e then yes.denote value e else []) ++ rest.denote value e
  | ifElse c yes no rest =>
    (if c.holds e then yes.denote value e else no.denote value e) ++ rest.denote value e

section Fill

variable {lookup lookup' : Text → Option Text}

theorem fill_none (f : Fragment) : f.fill (fun _ => none) = f := by
  induction f with
  | nil => rfl
  | literal t rest ih => rw [fill, ih]
  | mark name rest ih => rw [fill, ih]
  | ifThen c yes rest ihyes ihrest => rw [fill, ihyes, ihrest]
  | ifElse c yes no rest ihyes ihno ihrest => rw [fill, ihyes, ihno, ihrest]

/-- Two passes are one pass with both sets of values. -/
theorem fill_fill (f : Fragment) :
    (f.fill lookup).fill lookup' = f.fill (firstOf lookup lookup') := by
  induction f with
  | nil => rfl
  | literal t rest ih => rw [fill, fill, fill, ih]
  | mark name rest ih =>
    rw [fill, fill, firstOf]
    cases lookup name with
    | some value => rw [fill, ih, Option.some_or]
    | none => rw [fill, ih, Option.none_or]
  | ifThen c yes rest ihyes ihrest => rw [fill, fill, fill, ihyes, ihrest]
  | ifElse c yes no rest ihyes ihno ihrest => rw [fill, fill, fill, ihyes, ihno, ihrest]

theorem denote_fill (value : Text → Option Text) (e : Entry) (f : Fragment) :
    (f.fill lookup).denote value e = f.denote (firstOf lookup value) e := by
  induction f with
  | nil => rfl
  | literal t rest ih => rw [fill, denote, denote, ih]
  | mark name rest ih =>
    rw [fill, denote, shown, firstOf]
    cases lookup name with
    | some v => rw [denote, ih, Option.some_or, Option.getD_some]
    | none => rw [denote, ih, Option.none_or, shown]
  | ifThen c yes rest ihyes ihrest => rw [fill, denote, denote, ihyes, ihrest]
  | ifElse c yes no rest ihyes ihno ihrest => rw [fill, denote, denote, ihyes, ihno, ihrest]

theorem depth_fill (f : Fragment) : (f.fill lookup).depth = f.depth := by
  induction f with
  | nil => rfl
  | literal t rest ih => rw [fill, depth, depth, ih]
  | mark name rest ih =>
    rw [fill]
    cases lookup name <;> rw [depth, depth, ih]
  | ifThen c yes rest ihyes ihrest => rw [fill, depth, depth, ihyes, ihrest]
  | ifElse c yes no rest ihyes ihno ihrest => rw [fill, depth, depth, ihyes, ihno, ihrest]

/-! ## Guarded fragments -/

/-- The literals at the start of a fragment. -/
def lead : Fragment → Text
  | literal t rest => t ++ rest.lead
  | _ => []

/-- The literals at the start are empty or hold a character that no word has. -/
def Guarded (f : Fragment) : Prop := f.lead = [] ∨ ∃ c ∈ f.lead, isWordChar c = false

theorem at_not_mem_lead {f : Fragment} (hf : f.WellFormed ('@' ∉ ·)) : '@' ∉ f.lead := by
  induction f with
  | literal t rest ih =>
    rw [lead, List.mem_append, not_or]
    exact ⟨hf.1, ih hf.2⟩
  | _ => simp [lead]

theorem lead_prefix_text (f : Fragment) : f.lead <+: f.text := by
  induction f with
  | literal t rest ih => exact List.prefix_append_right_inj t |>.2 ih
  | _ => simp [lead]

theorem lead_prefix_eval (e : Entry) (enclosing : Nat) (f : Fragment) :
    f.lead <+: f.eval e enclosing := by
  induction f with
  | literal t rest ih => exact List.prefix_append_right_inj t |>.2 ih
  | _ => simp [lead]

/-- A text that begins with guarded literals completes no placeholder that begins before it. -/
theorem closed_of_lead {f : Fragment} (hf : f.WellFormed ('@' ∉ ·)) {s : Text}
    (hs : f.lead <+: s) (hbreak : ∃ c ∈ f.lead, isWordChar c = false) (t : Text) :
    Closed lookup (s ++ t) := by
  obtain ⟨u, rfl⟩ := hs
  rw [List.append_assoc]
  exact closed_of_eq_none (wordBeforeAt?_append_of_break (at_not_mem_lead hf) hbreak _)

theorem closed_text {f : Fragment} (hf : f.WellFormed ('@' ∉ ·)) (hguard : f.Guarded) {t : Text}
    (ht : Closed lookup t) : Closed lookup (f.text ++ t) := by
  rcases hguard with hlead | hbreak
  · induction f with
    | nil => exact ht
    | literal s rest ih =>
      obtain ⟨rfl, hrest⟩ := List.append_eq_nil_iff.1 hlead
      exact ih hf.2 hrest
    | _ => exact closed_at _
  · exact closed_of_lead hf f.lead_prefix_text hbreak t

/-- Behind a mark, guarded literals complete no placeholder that begins at the mark. -/
theorem closed_behindMarks {f : Fragment} (hf : f.WellFormed ('@' ∉ ·))
    (hbehind : f.BehindMarks Guarded) :
    f.BehindMarks fun g => ∀ t, Closed lookup t → Closed lookup (g.text ++ t) := by
  induction f with
  | nil => trivial
  | literal t rest ih => exact ih hf.2 hbehind
  | mark name rest ih => exact ⟨fun _ => closed_text hf.2 hbehind.1, ih hf.2 hbehind.2⟩
  | ifThen c yes rest ihyes ihrest =>
    obtain ⟨-, -, hyes, hrest⟩ := hf
    obtain ⟨⟨hgyes, hbyes⟩, hgrest, hbrest⟩ := hbehind
    exact ⟨⟨fun _ => closed_text hyes hgyes, ihyes hyes hbyes⟩,
      fun _ => closed_text hrest hgrest, ihrest hrest hbrest⟩
  | ifElse c yes no rest ihyes ihno ihrest =>
    obtain ⟨-, -, hyes, hno, hrest⟩ := hf
    obtain ⟨⟨hgyes, hbyes⟩, ⟨hgno, hbno⟩, hgrest, hbrest⟩ := hbehind
    exact ⟨⟨fun _ => closed_text hyes hgyes, ihyes hyes hbyes⟩,
      ⟨fun _ => closed_text hno hgno, ihno hno hbno⟩,
      fun _ => closed_text hrest hgrest, ihrest hrest hbrest⟩

/-! ## A pass over a fragment -/

/-- The marks of a conditional are no placeholders. -/
theorem fills_mark_of_head {c : Char} {m : Text} (hc : c ∈ markHeads) (hm : '@' ∉ m) :
    Fills lookup (placeholder (c :: m)) (placeholder (c :: m)) := by
  have hall : ∀ c ∈ markHeads, '@' ≠ c ∧ isWordChar c = false := by decide
  have hhead := hall c hc
  refine Fills.mark ?_ fun hword => ?_
  · rw [List.mem_cons, not_or]
    exact ⟨hhead.1, hm⟩
  · exact absurd List.mem_cons_self (not_mem_of_isWord hword hhead.2)

theorem fills_question {c : Condition} (hc : c.WellFormed) :
    Fills lookup (placeholder c.question) (placeholder c.question) := by
  have hat := Condition.at_not_mem_question hc
  rw [Condition.question, List.mem_cons, not_or] at hat
  exact fills_mark_of_head (by decide) hat.2

theorem fills_placeholder {name : Text} (hname : IsWord name) :
    Fills lookup (placeholder name) (shown lookup name) := by
  rw [shown]
  cases hvalue : lookup name with
  | some value => exact Fills.known hname hvalue
  | none => exact Fills.mark (not_at_mem_of_isWord hname) fun _ => hvalue

/-- **A pass over a fragment.** On the text of a fragment, the substitution finds the placeholders of
the fragment and nothing else, if nothing that stands behind a mark completes a placeholder. -/
theorem carries_text {f : Fragment} (hf : f.WellFormed ('@' ∉ ·))
    (hbehind : f.BehindMarks fun g => ∀ t, Closed lookup t → Closed lookup (g.text ++ t)) :
    Carries lookup f.text (f.fill lookup).text := by
  have fills {g : Fragment} (hcarries : Carries lookup g.text (g.fill lookup).text)
      (hclosed : ∀ t, Closed lookup t → Closed lookup (g.text ++ t)) :
      Fills lookup g.text (g.fill lookup).text :=
    ⟨hcarries, hclosed⟩
  induction f with
  | nil => exact Carries.nil
  | literal t rest ih => exact Carries.append_of_not_mem hf.1 (ih hf.2 hbehind)
  | mark name rest ih =>
    have hfill : ((mark name rest).fill lookup).text =
        shown lookup name ++ (rest.fill lookup).text := by
      rw [fill, shown]
      cases lookup name <;> rfl
    rw [hfill]
    exact (fills_placeholder hf.1).carries.append (fills (ih hf.2 hbehind.2) hbehind.1)
  | ifThen c yes rest ihyes ihrest =>
    obtain ⟨hc, -, hyes, hrest⟩ := hf
    obtain ⟨⟨hgyes, hbyes⟩, hgrest, hbrest⟩ := hbehind
    have hfield := not_at_mem_of_isWord hc.1
    rw [fill, text_ifThen, text_ifThen]
    exact (fills_question hc).carries.append <|
      (fills (ihyes hyes hbyes) hgyes).append <|
      (fills_mark_of_head (by decide) hfield).append <|
      fills (ihrest hrest hbrest) hgrest
  | ifElse c yes no rest ihyes ihno ihrest =>
    obtain ⟨hc, -, hyes, hno, hrest⟩ := hf
    obtain ⟨⟨hgyes, hbyes⟩, ⟨hgno, hbno⟩, hgrest, hbrest⟩ := hbehind
    have hfield := not_at_mem_of_isWord hc.1
    rw [fill, text_ifElse, text_ifElse]
    exact (fills_question hc).carries.append <|
      (fills (ihyes hyes hbyes) hgyes).append <|
      (fills_mark_of_head (by decide) hfield).append <|
      (fills (ihno hno hbno) hgno).append <|
      (fills_mark_of_head (by decide) hfield).append <|
      fills (ihrest hrest hbrest) hgrest

/-! ## The pass over what the conditionals leave -/

/-- **The last pass.** Where every conditional is resolved, the substitution makes of a fragment what
the fragment means. -/
theorem fills_eval (e : Entry) {f : Fragment} (hf : f.WellFormed ('@' ∉ ·))
    (hbehind : f.BehindMarks Guarded) {enclosing : Nat} (hdepth : f.depth + enclosing ≤ maxDepth) :
    Carries lookup (f.eval e enclosing) (f.denote lookup e) ∧
      (f.Guarded → Fills lookup (f.eval e enclosing) (f.denote lookup e)) := by
  induction f generalizing enclosing with
  | nil => exact ⟨Carries.nil, fun _ => Fills.nil⟩
  | literal t rest ih =>
    obtain ⟨hcarries, hfills⟩ := ih hf.2 hbehind hdepth
    have hliteral := Carries.append_of_not_mem hf.1 hcarries
    refine ⟨hliteral, fun hguard => ⟨hliteral, fun s hs => ?_⟩⟩
    rcases hguard with hlead | hbreak
    · obtain ⟨rfl, hrest⟩ := List.append_eq_nil_iff.1 hlead
      exact (hfills (.inl hrest)).closed s hs
    · exact closed_of_lead hf (lead_prefix_eval e enclosing (literal t rest)) hbreak s
  | mark name rest ih =>
    have hrest := (ih hf.2 hbehind.2 hdepth).2 hbehind.1
    have hfills := (fills_placeholder hf.1).append hrest
    exact ⟨hfills.carries, fun _ => hfills⟩
  | ifThen c yes rest ihyes ihrest =>
    obtain ⟨-, -, hyes, hrest⟩ := hf
    obtain ⟨⟨hgyes, hbyes⟩, hgrest, hbrest⟩ := hbehind
    rw [depth] at hdepth
    have hdyes : yes.depth + (enclosing + 1) ≤ maxDepth := by omega
    have hdrest : rest.depth + enclosing ≤ maxDepth := by omega
    have hfyes := (ihyes hyes hbyes hdyes).2 hgyes
    have hfrest := (ihrest hrest hbrest hdrest).2 hgrest
    rw [eval, denote, if_pos (by omega)]
    have hfills : Fills lookup
        ((if c.holds e then yes.eval e (enclosing + 1) else []) ++ rest.eval e enclosing)
        ((if c.holds e then yes.denote lookup e else []) ++ rest.denote lookup e) := by
      split
      · exact hfyes.append hfrest
      · exact Fills.nil.append hfrest
    exact ⟨hfills.carries, fun _ => hfills⟩
  | ifElse c yes no rest ihyes ihno ihrest =>
    obtain ⟨-, -, hyes, hno, hrest⟩ := hf
    obtain ⟨⟨hgyes, hbyes⟩, ⟨hgno, hbno⟩, hgrest, hbrest⟩ := hbehind
    rw [depth] at hdepth
    have hdyes : yes.depth + (enclosing + 1) ≤ maxDepth := by omega
    have hdno : no.depth + (enclosing + 1) ≤ maxDepth := by omega
    have hdrest : rest.depth + enclosing ≤ maxDepth := by omega
    have hfyes := (ihyes hyes hbyes hdyes).2 hgyes
    have hfno := (ihno hno hbno hdno).2 hgno
    have hfrest := (ihrest hrest hbrest hdrest).2 hgrest
    rw [eval, denote, if_pos (by omega)]
    have hfills : Fills lookup
        ((if c.holds e then yes.eval e (enclosing + 1) else no.eval e (enclosing + 1)) ++
          rest.eval e enclosing)
        ((if c.holds e then yes.denote lookup e else no.denote lookup e) ++
          rest.denote lookup e) := by
      split
      · exact hfyes.append hfrest
      · exact hfno.append hfrest
    exact ⟨hfills.carries, fun _ => hfills⟩

end Fill

/-! ## One entry -/

/-- **One entry.** If the pass for the entry key leaves the text of a fragment in which every mark can
be told from what stands behind it, the entry is rendered as what this fragment means. -/
theorem renderEntry_eq_denote {e : Entry} {s : Text} {f : Fragment}
    (hkeyed : substitute (entryKeyValue e) s = f.text) (hf : f.WellFormed ('@' ∉ ·))
    (hapart : f.BehindMarks ApartFromMarks) (hguarded : f.BehindMarks Guarded)
    (hdepth : f.depth ≤ maxDepth) : renderEntry e s = f.denote e.get? e := by
  have hresolved : resolve e f.text = f.eval e 0 :=
    resolveLevels_text_of_apart e hf hapart (Nat.zero_add maxDepth)
  have hput : Carries e.get? (f.eval e 0) (f.denote e.get? e) :=
    (fills_eval e hf hguarded hdepth).1
  rw [renderEntry, hkeyed, hresolved, hput.substitute_eq]

end Fragment

end PubList.Template
