import PubList.Proofs.Values

/-!
# Rendering in two steps

With group blocks turned off, rendering puts in the values for the list and leaves the group blocks
to a second rendering. The second rendering finds the values of the first one in its template, and
none of them may become part of a placeholder there, whatever stands around it. It cannot: a value
for the list has no `@`, and it is part of no name that stands for a value (`Separate`). Putting the
values in once more therefore changes nothing (`substitute_substitute`).
-/

namespace PubList.Template

open Text (IsWord)

/-! ## A substitution that is made twice -/

/-- No value has an `@`, and no value is part of a known name. -/
def Separate (lookup : Text → Option Text) : Prop :=
  ∀ name v, lookup name = some v →
    '@' ∉ v ∧ ∀ name' v', lookup name' = some v' → ¬ v <:+: name'

section Substitution

variable {lookup : Text → Option Text} {t : Text}

/-- What is put out in front of the first `@` stands in front of an `@` in the template, if no value
is part of it. -/
theorem exists_of_substitute_eq {name rest : Text} (hat : '@' ∉ name)
    (hvalue : ∀ name' v, lookup name' = some v → '@' ∉ v ∧ ¬ v <:+: name)
    (h : substitute lookup t = name ++ '@' :: rest) : ∃ rest', t = name ++ '@' :: rest' := by
  fun_induction substitute lookup t generalizing name with
  | case1 => simp at h
  | case2 t name' hname' v hv ih =>
    -- The value would be the beginning of the name.
    obtain ⟨hatv, hpart⟩ := hvalue name' v hv
    rcases List.append_eq_append_iff.1 h with ⟨u, rfl, -⟩ | ⟨u, rfl, hu⟩
    · exact absurd (List.prefix_append v u).isInfix hpart
    · cases u with
      | nil =>
        rw [List.append_nil] at hpart
        exact absurd List.infix_rfl hpart
      | cons a u =>
        obtain ⟨rfl, -⟩ := List.cons.inj hu
        simp at hatv
  | case3 t name' hname' hv ih | case4 t hname' ih =>
    cases name with
    | nil => exact ⟨t, rfl⟩
    | cons c name =>
      obtain ⟨rfl, -⟩ := List.cons.inj h
      simp at hat
  | case5 c t hc ih =>
    cases name with
    | nil => exact absurd (List.cons.inj h).1 hc
    | cons a name =>
      obtain ⟨rfl, htail⟩ := List.cons.inj h
      rw [List.mem_cons, not_or] at hat
      have hvalue' : ∀ name' v, lookup name' = some v → '@' ∉ v ∧ ¬ v <:+: name :=
        fun name' v hv => (hvalue name' v hv).imp_right fun hpart hv' =>
          hpart (hv'.trans (List.suffix_cons c name).isInfix)
      obtain ⟨rest', rfl⟩ := ih hat.2 hvalue' htail
      exact ⟨rest', rfl⟩

/-- An `@` that opens no known placeholder opens none in what the substitution makes of the text
behind it. -/
theorem closed_substitute (hlookup : Separate lookup) (ht : Closed lookup t) :
    Closed lookup (substitute lookup t) := by
  intro name hname
  obtain ⟨hword, rest, heq⟩ := wordBeforeAt?_eq_some hname
  rw [Option.eq_none_iff_forall_ne_some]
  intro v hv
  obtain ⟨rest', rfl⟩ := exists_of_substitute_eq (not_at_mem_of_isWord hword)
    (fun name' v' hv' => (hlookup name' v' hv').imp_right fun hpart => hpart name v hv) heq
  have hnone := ht name (wordBeforeAt?_append hword)
  rw [hv] at hnone
  cases hnone

/-- No `@` that is put out opens a known placeholder. -/
theorem closed_of_substitute_eq (hlookup : Separate lookup) {before after : Text}
    (h : substitute lookup t = before ++ '@' :: after) : Closed lookup after := by
  fun_induction substitute lookup t generalizing before with
  | case1 => simp at h
  | case2 t name hname v hv ih =>
    -- The `@` stands behind the value, which has none.
    rcases List.append_eq_append_iff.1 h with ⟨u, rfl, hu⟩ | ⟨u, rfl, hu⟩
    · exact ih hu
    · cases u with
      | nil => exact @ih [] hu.symm
      | cons a u =>
        obtain ⟨rfl, -⟩ := List.cons.inj hu
        exact absurd (List.mem_append_right before List.mem_cons_self) (hlookup name _ hv).1
  | case3 t name hname hv ih =>
    cases before with
    | nil =>
      obtain ⟨-, rfl⟩ := List.cons.inj h
      refine closed_substitute hlookup fun name' hname' => ?_
      cases hname.symm.trans hname'
      exact hv
    | cons b before => exact ih (List.cons.inj h).2
  | case4 t hname ih =>
    cases before with
    | nil =>
      obtain ⟨-, rfl⟩ := List.cons.inj h
      exact closed_substitute hlookup (closed_of_eq_none hname)
    | cons b before => exact ih (List.cons.inj h).2
  | case5 c t hc ih =>
    cases before with
    | nil => exact absurd (List.cons.inj h).1 hc
    | cons b before => exact ih (List.cons.inj h).2

/-- **A second substitution changes nothing.** The values that the first one has put in complete no
placeholder, whatever stands around them. -/
theorem substitute_substitute (hlookup : Separate lookup) (t : Text) :
    substitute lookup (substitute lookup t) = substitute lookup t :=
  substitute_eq_self fun _ _ => closed_of_substitute_eq hlookup

/-- A substitution leaves no placeholder that it knows. -/
theorem not_placeholder_infix_substitute (hlookup : Separate lookup) {name v : Text}
    (hname : IsWord name) (hv : lookup name = some v) (t : Text) :
    ¬ placeholder name <:+: substitute lookup t := by
  rintro ⟨before, after, h⟩
  rw [List.append_assoc, placeholder_append] at h
  have hnone := closed_of_substitute_eq hlookup h.symm name (wordBeforeAt?_append hname)
  rw [hv] at hnone
  cases hnone

end Substitution

/-! ## The values for the list -/

/-- The values for the list are numbers and names of groupings. -/
theorem not_infix_of_globalValue {mode : GroupMode} {n : Nat} {name v s : Text}
    (hv : globalValue mode n name = some v) (hdigit : ∀ c ∈ s, c.isDigit = false)
    (hmode : ¬ mode.name <:+: s) : ¬ v <:+: s := by
  have hnumber (hne : v ≠ []) (hall : ∀ c ∈ v, c.isDigit = true) : ¬ v <:+: s := by
    intro hpart
    obtain ⟨c, v, rfl⟩ := List.exists_cons_of_ne_nil hne
    have hc : c.isDigit = false := hdigit c (hpart.subset List.mem_cons_self)
    rw [hall c List.mem_cons_self] at hc
    cases hc
  unfold globalValue at hv
  split at hv
  · cases hv
    exact hnumber (by decide) (by decide)
  split at hv
  · cases hv
    exact hnumber (Text.ofNat_ne_nil n) fun c => Text.isDigit_of_mem_ofNat
  split at hv
  · cases hv
    exact hmode
  · cases hv

/-- No value for the list is part of the name of a placeholder for the list. -/
theorem separate_globalValue (mode : GroupMode) (n : Nat) : Separate (globalValue mode n) := by
  have hdigit : ∀ name ∈ globalNames, ∀ c ∈ name, c.isDigit = false := by decide
  have hmode : ∀ name ∈ globalNames, Text.contains name mode.name = false := by
    cases mode <;> decide
  intro name v hv
  refine ⟨not_at_mem_of_isWord (globalValue_eq_some hv).2.1, fun name' v' hv' => ?_⟩
  have hname' := (globalValue_eq_some hv').1
  exact not_infix_of_globalValue hv (hdigit name' hname')
    (Text.contains_eq_false_iff.1 (hmode name' hname'))

/-! ## Two renderings -/

/-- **Rendering in two steps.** With group blocks turned off, rendering always succeeds. Its result
holds no placeholder for the list, and rendering it once more changes nothing. Rendering the result
with group blocks turned on gives what rendering the template itself gives, be it a text or an
error. -/
theorem render_in_two_steps (config : Config) (groups : List Group) (t : Text) :
    ∃ s, render { config with useGroup := false } groups t = .ok s ∧
      (∀ name ∈ globalNames, ¬ placeholder name <:+: s) ∧
      render { config with useGroup := false } groups s = .ok s ∧
      render { config with useGroup := true } groups s =
        render { config with useGroup := true } groups t := by
  have hseparate := separate_globalValue config.groupBy groups.length
  have htwice := substitute_substitute hseparate t
  refine ⟨substitute (globalValue config.groupBy groups.length) t, rfl, fun name hname => ?_, ?_, ?_⟩
  · obtain ⟨v, hv⟩ := globalValue_isSome config.groupBy groups.length hname
    have hword : IsWord name := isWord_of_mem_names (List.mem_append_left groupNames hname)
    exact not_placeholder_infix_substitute hseparate hword hv t
  · simp only [render, htwice]
    rfl
  · simp only [render, htwice]

end PubList.Template
