import PubList.Proofs.Anchor
import PubList.Proofs.Numeral

/-!
# The values of reserved placeholders

What a placeholder means is told by three tables: one for the list, one for a group and one for an entry
(`listMeanings`, `groupMeanings`, `entryMeanings`). What the passes look up agrees with them.

The values for the list, and the numbers of a group, are words. The key of a group and the key of an
entry come from the data as they are. All of them are `Fragment.Sound`: this is what the later passes
need of the values that the earlier ones have put in.
-/

namespace PubList.Template

open Text (IsWord isWordChar NoHead)

/-! ## Meanings -/

/-- What the placeholders for the list mean: a count that is always zero, the number of groups, and
the name of the grouping. -/
def listMeanings (config : Config) (groups : List Group) : List (Text × Text) :=
  [("globalcount".toList, "0".toList),
    ("globalgroupcount".toList, Text.ofNat groups.length),
    ("globalkey".toList, config.groupBy.name)]

/-- What the placeholders for a group mean: its key, its place in the list, and the number of its
entries. -/
def groupMeanings (id : Nat) (g : Group) : List (Text × Text) :=
  [("groupkey".toList, g.key),
    ("groupid".toList, Text.ofNat id),
    ("groupcount".toList, Text.ofNat g.entries.length)]

/-- What the placeholders for an entry mean: two names for its key, and its fields. -/
def entryMeanings (e : Entry) : List (Text × Text) :=
  ("entrykey".toList, e.key) :: ("key".toList, e.key) :: e.fields

theorem lookup_cons_eq_ite (name name' v : Text) (l : List (Text × Text)) :
    ((name', v) :: l).lookup name = if name = name' then some v else l.lookup name := by
  rw [List.lookup_cons]
  split <;> simp_all

/-- The pass for the list looks up what the placeholders for the list mean. -/
theorem lookup_listMeanings (config : Config) (groups : List Group) :
    ((listMeanings config groups).lookup ·) = globalValue config.groupBy groups.length := by
  funext name
  simp only [listMeanings, lookup_cons_eq_ite, List.lookup_nil, globalValue]
  rfl

/-- The passes for the list and for a group look up what their placeholders mean. -/
theorem lookup_append_groupMeanings (config : Config) (groups : List Group) (id : Nat) (g : Group) :
    ((listMeanings config groups ++ groupMeanings id g).lookup ·) =
      firstOf (globalValue config.groupBy groups.length)
        (groupValue g.key id g.entries.length) := by
  rw [← lookup_listMeanings]
  funext name
  simp only [List.lookup_append, firstOf, groupMeanings, lookup_cons_eq_ite, List.lookup_nil,
    groupValue]

/-- The passes for an entry look up what its placeholders mean, behind what is known already. -/
theorem lookup_append_entryMeanings (meanings : List (Text × Text)) (e : Entry) :
    ((meanings ++ entryMeanings e).lookup ·) =
      firstOf (firstOf (meanings.lookup ·) (entryKeyValue e)) e.get? := by
  funext name
  have hentry : (entryMeanings e).lookup name = (entryKeyValue e name).or (e.get? name) := by
    simp only [entryMeanings, lookup_cons_eq_ite, entryKeyValue]
    split <;> rfl
  simp only [List.lookup_append, hentry, firstOf, Option.or_assoc]

/-! ## Words and data -/

theorem noHead_of_isWord {v : Text} (hv : IsWord v) : NoHead allHeads v := by
  cases v with
  | nil => exact Text.noHead_nil _
  | cons c v =>
    have hall : ∀ c ∈ allHeads, isWordChar c = false := by decide
    refine Text.noHead_cons (fun hmem => ?_) v
    exact not_mem_of_isWord hv (hall c hmem) List.mem_cons_self

theorem isWord_ofNat (n : Nat) : IsWord (Text.ofNat n) := by
  refine ⟨Text.ofNat_ne_nil n, fun c hc => ?_⟩
  simp [isWordChar, Char.isAlphanum, Text.isDigit_of_mem_ofNat hc]

/-- The values for the list are words. None of them begins like the name of a placeholder for the
group. -/
theorem globalValue_eq_some {mode : GroupMode} {n : Nat} {name v : Text}
    (h : globalValue mode n name = some v) :
    name ∈ globalNames ∧ IsWord v ∧ v.head? ≠ some 'g' := by
  unfold globalValue at h
  split at h
  · next hname =>
    cases h
    exact ⟨hname ▸ by decide, by decide, by decide⟩
  split at h
  · next hname =>
    cases h
    refine ⟨hname ▸ by decide, isWord_ofNat n, fun hhead => ?_⟩
    have hdigit := Text.isDigit_of_mem_ofNat (List.mem_of_mem_head? hhead)
    exact absurd hdigit (by decide)
  split at h
  · next hname =>
    cases h
    refine ⟨hname ▸ by decide, ?_⟩
    cases mode <;> decide
  · cases h

theorem globalValue_isSome (mode : GroupMode) (n : Nat) {name : Text} (h : name ∈ globalNames) :
    ∃ v, globalValue mode n name = some v := by
  simp only [globalNames, List.map_cons, List.map_nil, List.mem_cons, List.not_mem_nil,
    or_false] at h
  rcases h with rfl | rfl | rfl
  · exact ⟨_, rfl⟩
  · exact ⟨_, rfl⟩
  · exact ⟨_, rfl⟩

theorem groupValue_eq_some {key : Text} {id count : Nat} {name v : Text}
    (h : groupValue key id count name = some v) :
    name ∈ groupNames ∧ (name = "groupkey".toList ∧ v = key ∨ IsWord v) := by
  unfold groupValue at h
  split at h
  · next hname =>
    cases h
    exact ⟨hname ▸ by decide, .inl ⟨hname, rfl⟩⟩
  split at h
  · next hname =>
    cases h
    exact ⟨hname ▸ by decide, .inr (isWord_ofNat id)⟩
  split at h
  · next hname =>
    cases h
    exact ⟨hname ▸ by decide, .inr (isWord_ofNat count)⟩
  · cases h

theorem groupValue_isSome (key : Text) (id count : Nat) {name : Text} (h : name ∈ groupNames) :
    ∃ v, groupValue key id count name = some v := by
  simp only [groupNames, List.map_cons, List.map_nil, List.mem_cons, List.not_mem_nil,
    or_false] at h
  rcases h with rfl | rfl | rfl
  · exact ⟨_, rfl⟩
  · exact ⟨_, rfl⟩
  · exact ⟨_, rfl⟩

/-- Every placeholder for the list or for a group has a value when both are known. -/
theorem firstOf_isSome (mode : GroupMode) (n : Nat) (key : Text) (id count : Nat) {name : Text}
    (h : name ∈ globalNames ++ groupNames) :
    ∃ v, firstOf (globalValue mode n) (groupValue key id count) name = some v := by
  rw [firstOf]
  rcases List.mem_append.1 h with hname | hname
  · obtain ⟨v, hv⟩ := globalValue_isSome mode n hname
    exact ⟨v, by rw [hv, Option.some_or]⟩
  · obtain ⟨v, hv⟩ := groupValue_isSome key id count hname
    cases hvalue : globalValue mode n name with
    | none => exact ⟨v, by rw [Option.none_or, hv]⟩
    | some v' => exact ⟨v', Option.some_or⟩

theorem isWord_of_mem_names {name : Text} (h : name ∈ globalNames ++ groupNames) : IsWord name := by
  have hall : ∀ name ∈ globalNames ++ groupNames, IsWord name := by decide
  exact hall name h

theorem groupValue_of_head {c : Char} (hc : c ≠ 'g') (key : Text) (id count : Nat) (name : Text) :
    groupValue key id count (c :: name) = none := by
  rw [Option.eq_none_iff_forall_ne_some]
  intro v hv
  have hname := (groupValue_eq_some hv).1
  simp only [groupNames, List.map_cons, List.map_nil, List.mem_cons, List.not_mem_nil,
    or_false] at hname
  rcases hname with hname | hname | hname <;> exact hc (List.cons.inj hname).1

namespace Fragment

section Sound

variable {groups : List Group}

theorem sound_global (groups : List Group) (mode : GroupMode) (n : Nat) :
    Sound (dataValues groups) (globalValue mode n) := by
  intro name v h
  obtain ⟨hname, hword, -⟩ := globalValue_eq_some h
  refine ⟨?_, .inr ⟨not_at_mem_of_isWord hword, noHead_of_isWord hword⟩⟩
  exact List.mem_append_left _ (List.mem_append_left _ hname)

theorem sound_group {g : Group} (hg : g ∈ groups) (id count : Nat) :
    Sound (dataValues groups) (groupValue g.key id count) := by
  intro name v h
  obtain ⟨hname, hv⟩ := groupValue_eq_some h
  refine ⟨List.mem_append_left _ (List.mem_append_right _ hname), ?_⟩
  rcases hv with ⟨rfl, rfl⟩ | hword
  · left
    rw [dataValues, if_pos rfl]
    exact List.mem_map_of_mem hg
  · exact .inr ⟨not_at_mem_of_isWord hword, noHead_of_isWord hword⟩

theorem sound_entryKey {g : Group} (hg : g ∈ groups) {e : Entry} (he : e ∈ g.entries) :
    Sound (dataValues groups) (entryKeyValue e) := by
  intro name v h
  rw [entryKeyValue, Option.ite_none_right_eq_some] at h
  obtain ⟨rfl, h⟩ := h
  cases h
  refine ⟨by decide, .inl ?_⟩
  rw [dataValues, if_neg (by decide), if_pos rfl, List.mem_flatMap]
  exact ⟨g, hg, List.mem_map_of_mem he⟩

theorem Sound.firstOf {values : Text → List Text} {known known' : Text → Option Text}
    (h : Sound values known) (h' : Sound values known') : Sound values (firstOf known known') := by
  intro name v hv
  rcases Option.or_eq_some_iff.1 hv with hv | ⟨-, hv⟩
  · exact h name v hv
  · exact h' name v hv

end Sound

end Fragment

end PubList.Template
