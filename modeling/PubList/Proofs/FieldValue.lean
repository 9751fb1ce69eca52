import PubList.Proofs.Replacement
import PubList.Proofs.Resolution

/-!
# Field values are data

Rendering an entry is parametric in the values of its fields: with a fresh character in place of
each value, the rendered text has these characters where the values have to stand. This holds for
every template, also for one that is not well-formed, as long as no test looks at a value.

The key pass and the resolution give the same text for both entries (`resolve_congr`). The last pass
puts the values in, and is parametric in them.
-/

namespace PubList

open Text (IsWord isWordChar)

/-! ## The entry with fresh characters -/

namespace Entry

/-- What a conditional without a test asks for: the field is present, neither empty nor `0`. -/
def has (e : Entry) (field : Text) : Bool :=
  ((e.get? field).filter Template.Conditional.counts).isSome

/-- The value of every field is neither empty nor `0`. -/
def Full (e : Entry) : Prop := ∀ field ∈ e.fields, field.2 ≠ [] ∧ field.2 ≠ ['0']

/-- An entry with a character in place of each value. -/
def masked (fresh : Text → Char) (e : Entry) : Entry :=
  ⟨e.key, e.fields.map fun (name, _) => (name, [fresh name])⟩

/-- Puts the value of a field in place of its character, and keeps every other character. -/
def unmask (fresh : Text → Char) (e : Entry) (c : Char) : Text :=
  match e.fields.find? fun field => fresh field.1 = c with
  | some (_, value) => value
  | none => [c]

/-- Every field has a character of its own, no word has it, and it occurs neither in the template nor
in the key of the entry. -/
structure Fresh (fresh : Text → Char) (e : Entry) (t : Text) : Prop where
  injective : ∀ field ∈ e.fields, ∀ field' ∈ e.fields,
    fresh field.1 = fresh field'.1 → field.1 = field'.1
  not_word : ∀ field ∈ e.fields, isWordChar (fresh field.1) = false
  not_mem : ∀ field ∈ e.fields, fresh field.1 ∉ t ∧ fresh field.1 ∉ e.key

section Masked

variable {fresh : Text → Char} {e : Entry} {t : Text}

/-- Only the characters that stand for fields are replaced. -/
theorem unmask_eq_self (hfresh : e.Fresh fresh t) {c : Char} (hc : c ∈ t ∨ c ∈ e.key) :
    e.unmask fresh c = [c] := by
  have hnone : (e.fields.find? fun field => fresh field.1 = c) = none := by
    rw [List.find?_eq_none]
    intro field hfield heq
    obtain ⟨ht, hkey⟩ := hfresh.not_mem field hfield
    rw [of_decide_eq_true heq] at ht hkey
    exact hc.elim ht hkey
  rw [unmask, hnone]

/-- The character of a field stands for the value that a look-up finds. -/
theorem unmask_of_lookup (hfresh : e.Fresh fresh t) {name v : Text}
    (h : e.fields.lookup name = some v) : e.unmask fresh (fresh name) = v := by
  obtain ⟨before, after, hfields, hbefore⟩ := List.lookup_eq_some_iff.1 h
  -- The first field with this character is the first field with this name.
  have hfind : (e.fields.find? fun field => fresh field.1 = fresh name) = some (name, v) := by
    refine List.find?_eq_some_iff_append.2 ⟨by simp, before, after, hfields, fun field hfield => ?_⟩
    have hmem : field ∈ e.fields := by simp [hfields, hfield]
    have hne := hbefore field hfield
    rw [Bool.not_eq_true', decide_eq_false_iff_not]
    intro heq
    rw [hfresh.injective field hmem (name, v) (by simp [hfields]) heq] at hne
    simp at hne
  rw [unmask, hfind]

theorem lookup_masked (name : Text) :
    (e.masked fresh).fields.lookup name = (e.fields.lookup name).map fun _ => [fresh name] := by
  cases hlookup : e.fields.lookup name with
  | none =>
    rw [Option.map_none]
    rw [List.lookup_eq_none_iff] at hlookup ⊢
    intro field hfield
    obtain ⟨field', hfield', rfl⟩ := List.mem_map.1 hfield
    exact hlookup field' hfield'
  | some v =>
    obtain ⟨before, after, hfields, hbefore⟩ := List.lookup_eq_some_iff.1 hlookup
    refine List.lookup_eq_some_iff.2
      ⟨before.map fun (name, _) => (name, [fresh name]),
        after.map fun (name, _) => (name, [fresh name]), ?_, fun field hfield => ?_⟩
    · simp [masked, hfields]
    · obtain ⟨field', hfield', rfl⟩ := List.mem_map.1 hfield
      exact hbefore field' hfield'

/-- What the entry answers is what the characters of the masked entry stand for. -/
theorem get?_masked (hfresh : e.Fresh fresh t) (name : Text) :
    e.get? name = ((e.masked fresh).get? name).map (List.flatMap (e.unmask fresh)) := by
  by_cases hname : name = keyName
  · subst hname
    have hkey : e.key.flatMap (e.unmask fresh) = e.key :=
      Template.flatMap_eq_self fun c hc => unmask_eq_self hfresh (.inr hc)
    rw [get?_key, get?_key, Option.map_some, masked, hkey]
  · rw [get?, get?, if_neg hname, if_neg hname, lookup_masked]
    cases hlookup : e.fields.lookup name with
    | none => rfl
    | some v =>
      rw [Option.map_some, Option.map_some, List.flatMap_singleton,
        unmask_of_lookup hfresh hlookup]

/-- Full fields are there for a conditional, and so are fresh characters. -/
theorem has_masked (hfull : e.Full) (hfresh : e.Fresh fresh t) (name : Text) :
    e.has name = (e.masked fresh).has name := by
  by_cases hname : name = keyName
  · subst hname
    rw [has, has, get?_key, get?_key, masked]
  · rw [has, has, get?, get?, if_neg hname, if_neg hname, lookup_masked]
    cases hlookup : e.fields.lookup name with
    | none => rfl
    | some v =>
      obtain ⟨before, after, hfields, -⟩ := List.lookup_eq_some_iff.1 hlookup
      have hmem : (name, v) ∈ e.fields := by simp [hfields]
      have hv : Template.Conditional.counts v = true := by
        simpa [Template.Conditional.counts] using hfull (name, v) hmem
      have hzero : fresh name ≠ '0' := by
        intro hzero
        have hword : isWordChar (fresh name) = false := hfresh.not_word (name, v) hmem
        rw [hzero] at hword
        exact absurd hword (by decide)
      have hc : Template.Conditional.counts [fresh name] = true := by
        simpa [Template.Conditional.counts] using hzero
      rw [Option.map_some, Option.filter_some_pos hv, Option.filter_some_pos hc]
      rfl

end Masked

end Entry

namespace Template

/-! ## Templates without tests -/

/-- No operator of a test occurs in the text. -/
def Untested (t : Text) : Prop := ∀ op : Operator, ¬ op.symbol <:+: t

theorem Untested.of_infix {s t : Text} (ht : Untested t) (h : s <:+: t) : Untested s :=
  fun op hop => ht op (hop.trans h)

/-- A conditional that is read from a text without operators has no test. -/
theorem test_eq_none_of_untested {t rest : Text} {c : Conditional}
    (h : Conditional.read? t = some (c, rest)) (ht : Untested ('@' :: '?' :: t)) :
    c.test = none := by
  rw [Option.eq_none_iff_forall_ne_some]
  rintro ⟨op, expected⟩ htest
  refine ht op ?_
  refine List.IsInfix.trans ?_ (infix_of_read? h).1
  refine ⟨Conditional.opener ++ c.field, expected ++ ['@'] ++ c.body ++ Conditional.closer c.field, ?_⟩
  simp [Conditional.text, Conditional.head, htest]

theorem holds_of_test_eq_none {c : Conditional} (h : c.test = none) (e : Entry) :
    c.holds e = e.has c.field := by
  rw [Conditional.holds, Conditional.holdsWith, Entry.has, h]
  cases (e.get? c.field).filter Conditional.counts <;> rfl

/-- Without tests, only the presence of fields decides what conditionals become. -/
theorem resolveLevels_congr {e e' : Entry} (hhas : ∀ field, e.has field = e'.has field)
    (levels : Nat) (t : Text) (ht : Untested t) :
    resolveLevels e levels t = resolveLevels e' levels t := by
  induction levels, t using resolveLevels.induct e with
  | case1 => rw [resolveLevels_nil, resolveLevels_nil]
  | case2 levels t hread ih =>
    rw [resolveLevels_of_read?_eq_none e levels hread,
      resolveLevels_of_read?_eq_none e' levels hread, ih (ht.of_infix ⟨['@', '?'], [], by simp⟩)]
  | case3 levels t c rest hread ihBranch ihRest =>
    obtain ⟨-, hbody, hrest⟩ := infix_of_read? hread
    have htest := test_eq_none_of_untested hread ht
    have hbranch : c.branch e = c.branch e' := by
      rw [Conditional.branch, Conditional.branch, holds_of_test_eq_none htest,
        holds_of_test_eq_none htest, hhas]
    cases levels with
    | zero =>
      rw [resolveLevels_zero_of_read? e hread, resolveLevels_zero_of_read? e' hread,
        ihRest (ht.of_infix hrest)]
    | succ inner =>
      rw [resolveLevels_succ_of_read? e inner hread, resolveLevels_succ_of_read? e' inner hread,
        ihRest (ht.of_infix hrest),
        ihBranch (ht.of_infix ((branch_infix_body c e).trans hbody)), hbranch]
  | case4 levels c t hstart ih =>
    rw [resolveLevels_cons e levels hstart, resolveLevels_cons e' levels hstart,
      ih (ht.of_infix (List.suffix_cons c t).isInfix)]

theorem resolve_congr {e e' : Entry} (hhas : ∀ field, e.has field = e'.has field)
    {t : Text} (ht : Untested t) : resolve e t = resolve e' t :=
  resolveLevels_congr hhas maxDepth t ht

/-- Resolution puts nothing in. -/
theorem mem_of_mem_resolveLevels {e : Entry} {levels : Nat} {t : Text} {a : Char}
    (h : a ∈ resolveLevels e levels t) : a ∈ t := by
  induction levels, t using resolveLevels.induct e with
  | case1 => rwa [resolveLevels_nil] at h
  | case2 levels t hread ih =>
    rw [resolveLevels_of_read?_eq_none e levels hread, List.mem_cons, List.mem_cons] at h
    rw [List.mem_cons, List.mem_cons]
    exact h.imp_right fun h => h.imp_right ih
  | case3 levels t c rest hread ihBranch ihRest =>
    obtain ⟨htext, hbody, hrest⟩ := infix_of_read? hread
    cases levels with
    | zero =>
      rw [resolveLevels_zero_of_read? e hread, List.mem_append] at h
      exact h.elim (fun h => htext.subset h) fun h => hrest.subset (ihRest h)
    | succ inner =>
      rw [resolveLevels_succ_of_read? e inner hread, List.mem_append] at h
      exact h.elim (fun h => ((branch_infix_body c e).trans hbody).subset (ihBranch h))
        fun h => hrest.subset (ihRest h)
  | case4 levels c t hstart ih =>
    rw [resolveLevels_cons e levels hstart, List.mem_cons] at h
    rw [List.mem_cons]
    exact h.imp_right ih

/-! ## Rendering -/

/-- The symbols of the operators have neither word characters nor `@`. -/
theorem Operator.symbol_apart (op : Operator) :
    op.symbol ≠ [] ∧ ∀ c ∈ op.symbol, c ≠ '@' ∧ isWordChar c = false := by
  cases op <;> decide

theorem isWord_of_entryKeyValue {e : Entry} (hkey : IsWord e.key) {name v : Text}
    (h : entryKeyValue e name = some v) : IsWord v := by
  rw [entryKeyValue, Option.ite_none_right_eq_some] at h
  obtain ⟨-, h⟩ := h
  cases h
  exact hkey

/-- A key that is a word brings no test into the template. -/
theorem untested_keyed {e : Entry} (hkey : IsWord e.key) {t : Text} (ht : Untested t) :
    Untested (substitute (entryKeyValue e) t) := by
  intro op hop
  obtain ⟨hne, hsymbol⟩ := op.symbol_apart
  exact ht op (infix_of_infix_substitute hne hsymbol
    (fun _ _ => isWord_of_entryKeyValue hkey) hop)

/-- **Field values are data.** Rendering a template without tests, well-formed or not, for an entry
whose key is a word and whose values are neither empty nor `0`, is rendering it with a fresh
character in place of each value, and putting the values in afterwards. -/
theorem renderEntry_masked (t : Text) (ht : ∀ op : Operator, Text.contains t op.symbol = false)
    (e : Entry) (hkey : IsWord e.key) (hfull : e.Full) (fresh : Text → Char)
    (hfresh : e.Fresh fresh t) :
    renderEntry e t = (renderEntry (e.masked fresh) t).flatMap (e.unmask fresh) := by
  have huntested : Untested (substitute (entryKeyValue e) t) :=
    untested_keyed hkey fun op => Text.contains_eq_false_iff.1 (ht op)
  have hkeyed : entryKeyValue (e.masked fresh) = entryKeyValue e := rfl
  have hresolved := resolve_congr (Entry.has_masked hfull hfresh) huntested
  have hfix : ∀ c ∈ resolve e (substitute (entryKeyValue e) t), e.unmask fresh c = [c] := by
    intro c hc
    refine Entry.unmask_eq_self hfresh ?_
    rcases mem_of_mem_substitute (mem_of_mem_resolveLevels hc) with hmem | ⟨name, v, hv, hmem⟩
    · exact .inl hmem
    · rw [entryKeyValue, Option.ite_none_right_eq_some] at hv
      obtain ⟨-, hv⟩ := hv
      cases hv
      exact .inr hmem
  rw [renderEntry, renderEntry, hkeyed, ← hresolved]
  exact substitute_flatMap hfix (Entry.get?_masked hfresh)

/-- Values that look like markup, in a template with a conditional that is not closed. -/
theorem renderEntry_masked_markup :
    let e : Entry :=
      ⟨"k".toList, [("title".toList, "@year@".toList), ("year".toList, "@;year@".toList)]⟩
    let fresh : Text → Char := fun name => if name = "title".toList then '#' else '$'
    let t : Text := "@title@@?year@(@year@)@;year@@x@title@ @?title@".toList
    renderEntry e t = (renderEntry (e.masked fresh) t).flatMap (e.unmask fresh) := by
  intro e fresh t
  have hfull : e.Full := by
    unfold Entry.Full
    decide
  have hfresh : e.Fresh fresh t := ⟨by decide, by decide, by decide⟩
  refine renderEntry_masked t (fun op => ?_) e (by decide) hfull fresh hfresh
  cases op <;> decide

end Template

end PubList
