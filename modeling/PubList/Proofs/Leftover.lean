import PubList.Proofs.Filling

/-!
# What is left of the placeholders

A placeholder for a field that an entry does not have stays in the text. A conditional that asks for
the field keeps it from being shown: only the placeholders that no conditional around them asks for
(`Fragment.unasked`) can be left, and only those without a value.
-/

namespace PubList.Template

/-- Every `@` of the text belongs to one of the given marks. -/
def OnlyMarks (marks : List Text) (t : Text) : Prop :=
  ∃ parts : List Text, t = parts.flatten ∧ ∀ p ∈ parts, '@' ∉ p ∨ p ∈ marks

section OnlyMarks

variable {marks : List Text} {s t : Text}

theorem OnlyMarks.nil (marks : List Text) : OnlyMarks marks [] := ⟨[], rfl, by simp⟩

theorem OnlyMarks.append (hs : OnlyMarks marks s) (ht : OnlyMarks marks t) :
    OnlyMarks marks (s ++ t) := by
  obtain ⟨parts, rfl, hparts⟩ := hs
  obtain ⟨parts', rfl, hparts'⟩ := ht
  refine ⟨parts ++ parts', List.flatten_append.symm, fun p hp => ?_⟩
  exact (List.mem_append.1 hp).elim (hparts p) (hparts' p)

theorem OnlyMarks.of_not_mem (h : '@' ∉ t) (marks : List Text) : OnlyMarks marks t :=
  ⟨[t], by simp, by simp [h]⟩

theorem OnlyMarks.of_mem (h : t ∈ marks) : OnlyMarks marks t := ⟨[t], by simp, by simp [h]⟩

theorem OnlyMarks.mono {marks' : List Text} (h : OnlyMarks marks t) (hsub : marks ⊆ marks') :
    OnlyMarks marks' t := by
  obtain ⟨parts, ht, hparts⟩ := h
  exact ⟨parts, ht, fun p hp => (hparts p hp).imp_right fun hmem => hsub hmem⟩

end OnlyMarks

namespace Fragment

/-- The placeholders of a fragment that stand inside no conditional on the field of that name. The
list says which fields are asked for around the fragment. -/
def unasked : (asked : List Text) → Fragment → List Text
  | _, nil => []
  | asked, literal _ rest => rest.unasked asked
  | asked, mark name rest =>
    if name ∈ asked then rest.unasked asked else name :: rest.unasked asked
  | asked, ifThen c yes rest => yes.unasked (c.field :: asked) ++ rest.unasked asked
  | asked, ifElse c yes no rest =>
    yes.unasked (c.field :: asked) ++ (no.unasked asked ++ rest.unasked asked)

/-- The given placeholders that have no value. -/
def missing (value : Text → Option Text) (names : List Text) : List Text :=
  (names.filter fun name => value name = none).map placeholder

theorem missing_subset (value : Text → Option Text) {names names' : List Text}
    (h : names ⊆ names') : missing value names ⊆ missing value names' :=
  List.map_subset _ (List.filter_subset _ h)

theorem onlyMarks_shown {value : Text → Option Text}
    (hvalue : ∀ name v, value name = some v → '@' ∉ v) {name : Text} {names : List Text}
    (hname : name ∈ names) : OnlyMarks (missing value names) (shown value name) := by
  rw [shown]
  cases h : value name with
  | some v => exact .of_not_mem (hvalue name v h) _
  | none => exact .of_mem (List.mem_map_of_mem (List.mem_filter.2 ⟨hname, by simp [h]⟩))

/-- **What is left of the placeholders.** If the values have no `@`, every `@` in what a fragment means
belongs to a placeholder that no conditional around it asks for and that has no value. -/
theorem onlyMarks_denote {value : Text → Option Text} {e : Entry}
    (hvalue : ∀ name v, value name = some v → '@' ∉ v)
    (hfields : ∀ name, value name = none → e.get? name = none) {f : Fragment}
    (hf : f.WellFormed ('@' ∉ ·)) {asked : List Text} (hasked : ∀ name ∈ asked, value name ≠ none) :
    OnlyMarks (missing value (f.unasked asked)) (f.denote value e) := by
  -- What a conditional asks for has a value in the branch that is chosen if the condition holds.
  have hholds {c : Condition} (hc : c.holds e = true) {asked : List Text}
      (hasked : ∀ name ∈ asked, value name ≠ none) :
      ∀ name ∈ c.field :: asked, value name ≠ none := by
    rw [List.forall_mem_cons]
    refine ⟨fun hnone => ?_, hasked⟩
    simp [Condition.holds, hfields _ hnone] at hc
  induction f generalizing asked with
  | nil => exact .nil _
  | literal t rest ih => exact (OnlyMarks.of_not_mem hf.1 _).append (ih hf.2 hasked)
  | mark name rest ih =>
    have hrest := ih hf.2 hasked
    rw [denote, unasked]
    split
    · next hmem =>
      obtain ⟨v, hv⟩ := Option.ne_none_iff_exists'.1 (hasked name hmem)
      rw [shown, hv]
      exact (OnlyMarks.of_not_mem (hvalue name v hv) _).append hrest
    · exact (onlyMarks_shown hvalue List.mem_cons_self).append
        (hrest.mono (missing_subset value (List.subset_cons_self _ _)))
  | ifThen c yes rest ihyes ihrest =>
    obtain ⟨-, -, hyes, hrest⟩ := hf
    rw [denote, unasked]
    refine .append ?_ ((ihrest hrest hasked).mono (missing_subset value (by simp)))
    split
    · next hc =>
      exact (ihyes hyes (hholds hc hasked)).mono (missing_subset value (by simp))
    · exact .nil _
  | ifElse c yes no rest ihyes ihno ihrest =>
    obtain ⟨-, -, hyes, hno, hrest⟩ := hf
    rw [denote, unasked]
    refine .append ?_ ((ihrest hrest hasked).mono (missing_subset value (by simp)))
    split
    · next hc =>
      exact (ihyes hyes (hholds hc hasked)).mono (missing_subset value (by simp))
    · exact (ihno hno hasked).mono (missing_subset value (by simp))

/-- What a fragment means depends on the values of its placeholders only. -/
theorem denote_congr {value value' : Text → Option Text} {f : Fragment}
    (h : ∀ name ∈ f.marks, value name = value' name) (e : Entry) :
    f.denote value e = f.denote value' e := by
  induction f with
  | nil => rfl
  | literal t rest ih => rw [denote, denote, ih h]
  | mark name rest ih =>
    rw [marks, List.forall_mem_cons] at h
    rw [denote, denote, shown, shown, h.1, ih h.2]
  | ifThen c yes rest ihyes ihrest =>
    simp only [marks, List.forall_mem_cons, List.forall_mem_append] at h
    obtain ⟨-, hyes, -, hrest⟩ := h
    rw [denote, denote, ihyes hyes, ihrest hrest]
  | ifElse c yes no rest ihyes ihno ihrest =>
    simp only [marks, List.forall_mem_cons, List.forall_mem_append] at h
    obtain ⟨-, hyes, -, hno, -, hrest⟩ := h
    rw [denote, denote, ihyes hyes, ihno hno, ihrest hrest]

end Fragment

end PubList.Template
