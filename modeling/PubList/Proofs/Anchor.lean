import PubList.Proofs.Filling
import PubList.Template.Render

/-!
# Where a placeholder may stand

The placeholders for the list, for the group and for the key of the entry are filled before the
conditionals of an entry block are resolved and before its fields are put in. Their values thus
become part of the text that the later passes read: between two other placeholders, a value could
be taken for the name of a third one. It cannot where the placeholder touches a literal.

`Fragment.anchored_fill` is what the later passes need to know of a fragment that is filled.
-/

namespace PubList.Template

open Text (IsWord isWordChar NoHead)

/-! ## Names and texts -/

/-- The placeholders for the whole list. -/
def globalNames : List Text := ["globalcount", "globalgroupcount", "globalkey"].map String.toList

/-- The placeholders for a group. -/
def groupNames : List Text := ["groupkey", "groupid", "groupcount"].map String.toList

/-- The placeholders that stand for something else than a field. -/
def reservedNames : List Text := globalNames ++ groupNames ++ ["entrykey".toList]

/-- What the marks of a template begin with, behind their `@`, unless they are placeholders. -/
def allHeads : List Char := ['?', ':', ';', '\x7b', '\x7d']

theorem mem_allHeads_of_mem_braces {k : Char} (hk : k ∈ braces) : k ∈ allHeads :=
  List.mem_append_right Fragment.markHeads hk

/-- A literal of a template: it has no `@`, it has a character that no word has, and it does not
begin like the inside of a mark. -/
def IsLiteral (t : Text) : Prop :=
  '@' ∉ t ∧ (∃ c ∈ t, isWordChar c = false) ∧ NoHead allHeads t

instance (t : Text) : Decidable (IsLiteral t) :=
  inferInstanceAs (Decidable (_ ∧ (∃ c ∈ t, isWordChar c = false) ∧ _))

/-- The values of a placeholder that are taken from the data as they are. -/
def dataValues (groups : List Group) (name : Text) : List Text :=
  if name = "groupkey".toList then groups.map (·.key)
  else if name = "entrykey".toList then groups.flatMap fun g => g.entries.map (·.key)
  else []

namespace Fragment

/-- Whether the first part of a fragment is a literal. -/
def startsWithLiteral : Fragment → Bool
  | literal _ _ => true
  | _ => false

/-- Every placeholder that does not stand for a field has a literal or the start of the entry block in
front of it, or it has a literal behind it and none of its values begins like the inside of a mark.
No value has an `@`. The flag says whether a literal or the start of the block stands in front of the
fragment. -/
def Anchored (values : Text → List Text) : (after : Bool) → Fragment → Prop
  | _, nil => True
  | _, literal _ rest => rest.Anchored values true
  | after, mark name rest =>
    (name ∈ reservedNames →
      after = true ∨ rest.startsWithLiteral = true ∧ ∀ v ∈ values name, NoHead allHeads v) ∧
    (∀ v ∈ values name, '@' ∉ v) ∧ rest.Anchored values false
  | _, ifThen _ yes rest => yes.Anchored values false ∧ rest.Anchored values false
  | _, ifElse _ yes no rest =>
    yes.Anchored values false ∧ no.Anchored values false ∧ rest.Anchored values false

instance decidableAnchored (values : Text → List Text) :
    (after : Bool) → (f : Fragment) → Decidable (f.Anchored values after)
  | _, nil => inferInstanceAs (Decidable True)
  | _, literal _ rest => decidableAnchored values true rest
  | after, mark name rest =>
    have := decidableAnchored values false rest
    inferInstanceAs (Decidable ((name ∈ reservedNames →
      after = true ∨ rest.startsWithLiteral = true ∧ ∀ v ∈ values name, NoHead allHeads v) ∧
      (∀ v ∈ values name, '@' ∉ v) ∧ rest.Anchored values false))
  | _, ifThen _ yes rest =>
    have := decidableAnchored values false yes
    have := decidableAnchored values false rest
    inferInstanceAs (Decidable (yes.Anchored values false ∧ rest.Anchored values false))
  | _, ifElse _ yes no rest =>
    have := decidableAnchored values false yes
    have := decidableAnchored values false no
    have := decidableAnchored values false rest
    inferInstanceAs (Decidable (yes.Anchored values false ∧ no.Anchored values false ∧
      rest.Anchored values false))

/-! ## Filled fragments -/

/-- A fragment that can stand behind a mark: it completes nothing that begins there. -/
structure Clean (f : Fragment) : Prop where
  guarded : f.Guarded
  noHead : NoHead allHeads f.text

theorem clean_of_lead {f : Fragment} (hlead : f.lead = []) (hhead : NoHead allHeads f.text) :
    f.Clean := ⟨.inl hlead, hhead⟩

theorem clean_literal {t : Text} (ht : IsLiteral t) (rest : Fragment) : (literal t rest).Clean where
  guarded := by
    obtain ⟨c, hc, hbreak⟩ := ht.2.1
    exact .inr ⟨c, List.mem_append_left _ hc, hbreak⟩
  noHead := by
    obtain ⟨c, hc, -⟩ := ht.2.1
    exact ht.2.2.append_of_ne_nil (List.ne_nil_of_mem hc) _

/-- A value that does not begin like the inside of a mark can stand in front of a literal. -/
theorem clean_literal_literal {v t : Text} (hv : NoHead allHeads v) (ht : IsLiteral t)
    (rest : Fragment) : (literal v (literal t rest)).Clean where
  guarded := by
    obtain ⟨c, hc, hbreak⟩ := ht.2.1
    refine .inr ⟨c, ?_, hbreak⟩
    rw [lead, lead, List.mem_append, List.mem_append]
    exact .inr (.inl hc)
  noHead := hv.append (clean_literal ht rest).noHead

section Fill

variable {known : Text → Option Text}

theorem fields_fill (f : Fragment) : (f.fill known).fields = f.fields := by
  induction f with
  | nil => rfl
  | literal t rest ih => rw [fill, fields, fields, ih]
  | mark name rest ih =>
    rw [fill]
    cases known name <;> rw [fields, fields, ih]
  | ifThen c yes rest ihyes ihrest => rw [fill, fields, fields, ihyes, ihrest]
  | ifElse c yes no rest ihyes ihno ihrest => rw [fill, fields, fields, ihyes, ihno, ihrest]

/-- What is known are reserved placeholders. Their values are data or behave like literals. -/
def Sound (values : Text → List Text) (known : Text → Option Text) : Prop :=
  ∀ name v, known name = some v →
    name ∈ reservedNames ∧ (v ∈ values name ∨ '@' ∉ v ∧ NoHead allHeads v)

variable {values : Text → List Text}

/-- Filling keeps a fragment well-formed. -/
theorem wellFormed_fill (hknown : Sound values known) {f : Fragment}
    (hf : f.WellFormed IsLiteral) {after : Bool} (hanchored : f.Anchored values after) :
    (f.fill known).WellFormed ('@' ∉ ·) := by
  induction f generalizing after with
  | nil => trivial
  | literal t rest ih => exact ⟨hf.1.1, ih hf.2 hanchored⟩
  | mark name rest ih =>
    have hrest := ih hf.2 hanchored.2.2
    rw [fill]
    cases hvalue : known name with
    | none => exact ⟨hf.1, hrest⟩
    | some v =>
      refine ⟨?_, hrest⟩
      rcases (hknown name v hvalue).2 with hv | hv
      · exact hanchored.2.1 v hv
      · exact hv.1
  | ifThen c yes rest ihyes ihrest =>
    obtain ⟨hc, hfield, hyes, hrest⟩ := hf
    rw [fill]
    refine ⟨hc, ?_, ihyes hyes hanchored.1, ihrest hrest hanchored.2⟩
    rwa [fields_fill]
  | ifElse c yes no rest ihyes ihno ihrest =>
    obtain ⟨hc, hfield, hyes, hno, hrest⟩ := hf
    rw [fill]
    refine ⟨hc, ?_, ihyes hyes hanchored.1, ihno hno hanchored.2.1, ihrest hrest hanchored.2.2⟩
    rwa [fields_fill, fields_fill]

/-- Where no literal stands in front of it, a fragment that is filled can stand behind a mark. -/
theorem clean_fill (hknown : Sound values known) {f : Fragment} (hf : f.WellFormed IsLiteral)
    (hanchored : f.Anchored values false) : (f.fill known).Clean := by
  cases f with
  | nil => exact clean_of_lead rfl (Text.noHead_nil _)
  | literal t rest => exact clean_literal hf.1 _
  | ifThen c yes rest => exact clean_of_lead rfl (Text.noHead_cons (by decide) _)
  | ifElse c yes no rest => exact clean_of_lead rfl (Text.noHead_cons (by decide) _)
  | mark name rest =>
    rw [fill]
    cases hvalue : known name with
    | none => exact clean_of_lead rfl (Text.noHead_cons (by decide) _)
    | some v =>
      obtain ⟨hreserved, hv⟩ := hknown name v hvalue
      rcases hanchored.1 hreserved with hafter | ⟨hstart, hdata⟩
      · cases hafter
      · -- No literal in front, so there is one behind the value.
        cases rest with
        | literal t rest =>
          have hhead : NoHead allHeads v := hv.elim (hdata v) (·.2)
          exact clean_literal_literal hhead hf.2.1 _
        | _ => cases hstart

/-- A fragment does not begin like the inside of a mark if no value that is put in does. -/
theorem noHead_fill (hknown : Sound values known)
    (hvalue : ∀ name v, known name = some v → NoHead allHeads v) {f : Fragment}
    (hf : f.WellFormed IsLiteral) {after : Bool} (hanchored : f.Anchored values after) :
    NoHead allHeads (f.fill known).text := by
  cases f with
  | nil => exact Text.noHead_nil _
  | literal t rest => exact (clean_literal hf.1 _).noHead
  | ifThen c yes rest => exact Text.noHead_cons (by decide) _
  | ifElse c yes no rest => exact Text.noHead_cons (by decide) _
  | mark name rest =>
    rw [fill]
    cases hv : known name with
    | none => exact Text.noHead_cons (by decide) _
    | some v => exact (hvalue name v hv).append (clean_fill hknown hf.2 hanchored.2.2).noHead

/-- In an anchored fragment that is filled, every mark can be told from what stands behind it. -/
theorem anchored_fill (hknown : Sound values known) {f : Fragment} (hf : f.WellFormed IsLiteral)
    {after : Bool} (hanchored : f.Anchored values after) : (f.fill known).BehindMarks Clean := by
  induction f generalizing after with
  | nil => trivial
  | literal t rest ih => exact ih hf.2 hanchored
  | mark name rest ih =>
    have hrest := ih hf.2 hanchored.2.2
    rw [fill]
    cases known name with
    | none => exact ⟨clean_fill hknown hf.2 hanchored.2.2, hrest⟩
    | some v => exact hrest
  | ifThen c yes rest ihyes ihrest =>
    obtain ⟨-, -, hyes, hrest⟩ := hf
    exact ⟨⟨clean_fill hknown hyes hanchored.1, ihyes hyes hanchored.1⟩,
      clean_fill hknown hrest hanchored.2, ihrest hrest hanchored.2⟩
  | ifElse c yes no rest ihyes ihno ihrest =>
    obtain ⟨-, -, hyes, hno, hrest⟩ := hf
    obtain ⟨hayes, hano, harest⟩ := hanchored
    exact ⟨⟨clean_fill hknown hyes hayes, ihyes hyes hayes⟩,
      ⟨clean_fill hknown hno hano, ihno hno hano⟩,
      clean_fill hknown hrest harest, ihrest hrest harest⟩

/-- A pass over an anchored fragment that is filled already fills it further. A value at its start
must complete no placeholder of the pass. -/
theorem fills_fill {lookup : Text → Option Text} (hknown : Sound values known)
    (hshown : ∀ name, IsWord name →
      Fills lookup (shown known name) (shown (firstOf known lookup) name))
    {f : Fragment} (hf : f.WellFormed IsLiteral) {after : Bool}
    (hanchored : f.Anchored values after) :
    Fills lookup (f.fill known).text (f.fill (firstOf known lookup)).text := by
  have hwf := wellFormed_fill hknown hf hanchored
  have hbehind := (anchored_fill hknown hf hanchored).mono fun _ h => h.guarded
  rw [← fill_fill]
  refine ⟨carries_text hwf (closed_behindMarks hwf hbehind), fun t ht => ?_⟩
  cases f with
  | nil => exact ht
  | literal s rest => exact closed_text hwf (clean_literal hf.1 _).guarded ht
  | ifThen c yes rest => exact closed_at _
  | ifElse c yes no rest => exact closed_at _
  | mark name rest =>
    have htext : ((mark name rest).fill known).text =
        shown known name ++ (rest.fill known).text := by
      rw [fill, shown]
      cases known name <;> rfl
    have hrest := wellFormed_fill hknown hf.2 hanchored.2.2
    have hclean := clean_fill hknown hf.2 hanchored.2.2
    rw [htext, List.append_assoc]
    exact (hshown name hf.1).closed _ (closed_text hrest hclean.guarded ht)

end Fill

end Fragment

end PubList.Template
