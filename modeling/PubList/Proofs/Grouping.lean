import Mathlib.Data.List.Nodup
import PubList.Group.Partition

/-!
# Groups as a partition

The groups of a list of entries are a partition of the list by their keys (`IsPartition`): no two
groups have one key, every key of an entry has a group, and a group holds the entries with its key
in the order of the list. One entry more keeps this (`IsPartition.insert`), so it holds of what is
collected, and the order in which the groups are shown does not matter for it.

The order of keys is a strict total order (`compareKeys` is transitive, and only equal keys compare
equal), so that the groups are shown in strictly ascending or strictly descending order. Which keys
there are and how they follow each other is the same for every order of the entries
(`map_key_ofEntries_of_perm`). All of this together is `ofEntries_orderedPartition`.
-/

namespace PubList

/-! ## Lists that are told apart by a key -/

section Keyed

variable {α κ : Type} [DecidableEq κ] (key : α → κ)

/-- Two lists are equal if both are sorted, elements that may stand on either side of each other have
one key, and for every key the lists hold the same elements in the same order. -/
theorem eq_of_pairwise_of_filter_key_eq {R : α → α → Prop} {l l' : List α}
    (hantisymm : ∀ a ∈ l, ∀ b ∈ l', R a b → R b a → key a = key b)
    (hl : l.Pairwise R) (hl' : l'.Pairwise R)
    (hfilter : ∀ k, (l.filter fun a => key a = k) = l'.filter fun a => key a = k) : l = l' := by
  induction l generalizing l' with
  | nil =>
    cases l' with
    | nil => rfl
    | cons b l' => simpa using hfilter (key b)
  | cons a l ih =>
    cases l' with
    | nil => simpa using hfilter (key a)
    | cons b l' =>
      rw [List.pairwise_cons] at hl hl'
      -- Each head stands in the other list, so neither key comes strictly first.
      have hkey : key a = key b := by
        by_contra hne
        have hb : b ∈ l := by
          have hmem : b ∈ (a :: l).filter fun c => key c = key b := by simp [hfilter]
          rw [List.mem_filter, List.mem_cons] at hmem
          refine hmem.1.resolve_left ?_
          rintro rfl
          exact hne rfl
        have ha : a ∈ l' := by
          have hmem : a ∈ (b :: l').filter fun c => key c = key a := by simp [← hfilter]
          rw [List.mem_filter, List.mem_cons] at hmem
          refine hmem.1.resolve_left ?_
          rintro rfl
          exact hne rfl
        exact hne (hantisymm a (by simp) b (by simp) (hl.1 b hb) (hl'.1 a ha))
      have hhead := hfilter (key b)
      simp only [List.filter_cons, hkey, decide_true, if_true, List.cons.injEq] at hhead
      obtain ⟨rfl, -⟩ := hhead
      refine congrArg (a :: ·) (ih (fun c hc d hd => ?_) hl.2 hl'.2 fun k => ?_)
      · exact hantisymm c (List.mem_cons_of_mem a hc) d (List.mem_cons_of_mem a hd)
      · have hk := hfilter k
        simp only [List.filter_cons] at hk
        split at hk
        · exact (List.cons.inj hk).2
        · exact hk

/-- Two lists are equal if both go by their keys in an antisymmetric order, and if for every key they
hold the same elements in the same order. -/
theorem eq_of_filter_key_eq (R : κ → κ → Prop) {l l' : List α}
    (hantisymm : ∀ a ∈ l, ∀ b ∈ l', R (key a) (key b) → R (key b) (key a) → key a = key b)
    (hl : l.Pairwise fun a b => R (key a) (key b)) (hl' : l'.Pairwise fun a b => R (key a) (key b))
    (hfilter : ∀ k, (l.filter fun a => key a = k) = l'.filter fun a => key a = k) : l = l' :=
  eq_of_pairwise_of_filter_key_eq key hantisymm hl hl' hfilter

/-- The elements of each key make up the list of all elements. -/
theorem perm_of_filter_key_eq [DecidableEq α] {l l' : List α}
    (hfilter : ∀ k, (l.filter fun a => key a = k) = l'.filter fun a => key a = k) : l.Perm l' := by
  rw [List.perm_iff_count]
  intro a
  have hcount := congrArg (List.count a) (hfilter (key a))
  rwa [List.count_filter (by simp), List.count_filter (by simp)] at hcount

end Keyed

/-- How the key of a group compares with the key of a group that is shown behind it. -/
def GroupOrder.comparison : GroupOrder → Ordering
  | ascending => .lt
  | descending => .gt

namespace Group

/-! ## The order of keys -/

/-- Keys are compared by whether they are numbers, then by their values, then by their characters. -/
theorem compareKeys_eq_compareLex :
    compareKeys = compareLex (compareOn fun k => (Number.readInt64? k).isNone)
      (compareLex (compareOn fun k => (Number.readInt64? k).getD 0) compare) := by
  funext a b
  simp only [compareKeys, compareLex, compareOn]
  cases Number.readInt64? a with
  | none =>
    cases Number.readInt64? b with
    | none => simp
    | some y => rfl
  | some x =>
    cases Number.readInt64? b with
    | none => rfl
    | some y => simp

instance transCmp_compareKeys : Std.TransCmp compareKeys := by
  rw [compareKeys_eq_compareLex]
  infer_instance

instance lawfulEqCmp_compareKeys : Std.LawfulEqCmp compareKeys where
  compare_self := Std.ReflCmp.compare_self
  eq_of_compare {a b} h := by
    rw [compareKeys_eq_compareLex, compareLex_eq_eq, compareLex_eq_eq] at h
    exact Std.LawfulEqCmp.eq_of_compare h.2.2

theorem compareKeys_swap (k l : Text) : compareKeys l k = (compareKeys k l).swap :=
  Std.OrientedCmp.eq_swap

/-- A key does not stand on both sides of another one. -/
theorem compareKeys_asymm (order : GroupOrder) (k l : Text)
    (hkl : compareKeys k l = order.comparison) : compareKeys l k ≠ order.comparison := by
  rw [compareKeys_swap, hkl]
  cases order <;> decide

/-! ## Collecting the groups -/

section Insert

variable {k : Text} {e : Entry}

theorem insert_of_not_mem {groups : List Group} (h : k ∉ groups.map key) :
    insert k e groups = groups ++ [⟨k, [e]⟩] := by
  induction groups with
  | nil => rfl
  | cons g groups ih =>
    rw [List.map_cons, List.mem_cons, not_or] at h
    rw [insert, if_neg (Ne.symm h.1), ih h.2, List.cons_append]

theorem insert_append {before after : List Group} {g : Group} (h : g.key ∉ before.map key) :
    insert g.key e (before ++ g :: after) = before ++ ⟨g.key, g.entries ++ [e]⟩ :: after := by
  induction before with
  | nil => rw [List.nil_append, insert, if_pos rfl, List.nil_append]
  | cons g' before ih =>
    rw [List.map_cons, List.mem_cons, not_or] at h
    rw [List.cons_append, insert, if_neg (Ne.symm h.1), ih h.2, List.cons_append]

end Insert

/-- Where keys differ, the group with a key divides the others in those before and those behind it. -/
theorem exists_split_of_mem {groups : List Group} (hnodup : (groups.map key).Nodup) {k : Text}
    (hk : k ∈ groups.map key) : ∃ before g after, groups = before ++ g :: after ∧ g.key = k ∧
      k ∉ before.map key ∧ k ∉ after.map key := by
  obtain ⟨g, hg, rfl⟩ := List.mem_map.1 hk
  obtain ⟨before, after, rfl⟩ := List.append_of_mem hg
  rw [List.map_append, List.map_cons, List.nodup_append, List.nodup_cons] at hnodup
  obtain ⟨-, ⟨hafter, -⟩, hdisjoint⟩ := hnodup
  exact ⟨before, g, after, rfl, rfl,
    fun hb => hdisjoint g.key hb g.key List.mem_cons_self rfl, hafter⟩

/-- The groups are a partition of the entries by their keys. -/
structure IsPartition (mode : GroupMode) (entries : List Entry) (groups : List Group) : Prop where
  nodup_keys : (groups.map key).Nodup
  mem_keys : ∀ k, k ∈ groups.map key ↔ k ∈ entries.map (keyOf mode)
  entries_eq : ∀ g ∈ groups, g.entries = entries.filter fun e => keyOf mode e = g.key

section Partition

variable {mode : GroupMode} {entries : List Entry} {groups : List Group}

theorem filter_key_eq_nil {k : Text} (hk : k ∉ entries.map (keyOf mode)) :
    (entries.filter fun e => keyOf mode e = k) = [] := by
  rw [List.filter_eq_nil_iff]
  intro e he heq
  rw [decide_eq_true_eq] at heq
  exact hk (heq ▸ List.mem_map_of_mem he)

/-- One entry more with another key does not change the entries with a key. -/
theorem filter_key_append_singleton {k : Text} {e : Entry} (hne : keyOf mode e ≠ k) :
    ((entries ++ [e]).filter fun e => keyOf mode e = k) =
      entries.filter fun e => keyOf mode e = k := by
  rw [List.filter_append, List.filter_singleton, decide_eq_false hne]
  simp

theorem IsPartition.nil (mode : GroupMode) : IsPartition mode [] [] where
  nodup_keys := List.nodup_nil
  mem_keys _ := Iff.rfl
  entries_eq _ hg := absurd hg List.not_mem_nil

/-- One entry more keeps the partition. -/
theorem IsPartition.insert (h : IsPartition mode entries groups) (e : Entry) :
    IsPartition mode (entries ++ [e]) (insert (keyOf mode e) e groups) := by
  obtain ⟨hnodup, hkeys, hentries⟩ := h
  by_cases hmem : keyOf mode e ∈ groups.map key
  · -- The group is there already, and takes the entry as its last one.
    obtain ⟨before, g, after, rfl, hkey, hbefore, hafter⟩ := exists_split_of_mem hnodup hmem
    have hsame : (before ++ ⟨g.key, g.entries ++ [e]⟩ :: after).map key =
        (before ++ g :: after).map key := by simp
    rw [← hkey] at hbefore hafter
    rw [← hkey, insert_append hbefore]
    refine ⟨hsame ▸ hnodup, fun k => ?_, fun g' hg' => ?_⟩
    · rw [hsame, hkeys, List.map_append, List.mem_append, List.map_singleton, List.mem_singleton]
      refine ⟨.inl, fun hk => hk.elim id ?_⟩
      rintro rfl
      exact (hkeys _).1 hmem
    · have hother {gs : List Group} (hgs : g.key ∉ gs.map key) (hg' : g' ∈ gs)
          (hsub : gs ⊆ before ++ g :: after) :
          g'.entries = (entries ++ [e]).filter fun e => keyOf mode e = g'.key := by
        rw [filter_key_append_singleton, hentries g' (hsub hg')]
        rw [← hkey]
        exact fun heq => hgs (heq ▸ List.mem_map_of_mem hg')
      rcases List.mem_append.1 hg' with hg' | hg'
      · exact hother hbefore hg' (List.subset_append_left _ _)
      · rcases List.mem_cons.1 hg' with rfl | hg'
        · rw [hentries g (by simp), List.filter_append, List.filter_singleton,
            decide_eq_true hkey.symm]
          rfl
        · exact hother hafter hg' fun g'' hg'' => by simp [hg'']
  · -- A new group, of one entry.
    rw [insert_of_not_mem hmem]
    refine ⟨?_, fun k => ?_, fun g hg => ?_⟩
    · rw [List.map_append, List.map_singleton, ← List.concat_eq_append]
      exact hnodup.concat hmem
    · rw [List.map_append, List.map_append, List.mem_append, List.mem_append, hkeys]
      rfl
    · rcases List.mem_append.1 hg with hg | hg
      · rw [filter_key_append_singleton, hentries g hg]
        exact fun heq => hmem (heq ▸ List.mem_map_of_mem hg)
      · rw [List.mem_singleton.1 hg, List.filter_append,
          filter_key_eq_nil fun hk => hmem ((hkeys _).2 hk)]
        simp

/-- What is collected is a partition. -/
theorem isPartition_collect (mode : GroupMode) (entries : List Entry) :
    IsPartition mode entries (collect mode entries) := by
  -- The entries that are put into groups already are a first part of the list.
  suffices h : ∀ rest before groups, IsPartition mode before groups →
      IsPartition mode (before ++ rest)
        (rest.foldl (fun groups e => Group.insert (keyOf mode e) e groups) groups) from
    h entries [] [] (IsPartition.nil mode)
  intro rest
  induction rest with
  | nil =>
    intro before groups h
    rwa [List.append_nil]
  | cons e rest ih =>
    intro before groups h
    rw [List.foldl_cons, List.append_cons]
    exact ih (before ++ [e]) _ (h.insert e)

/-- The order of the groups does not matter. -/
theorem IsPartition.perm (h : IsPartition mode entries groups) {groups' : List Group}
    (hperm : groups'.Perm groups) : IsPartition mode entries groups' where
  nodup_keys := (hperm.map key).nodup_iff.2 h.nodup_keys
  mem_keys k := (hperm.map key).mem_iff.trans (h.mem_keys k)
  entries_eq g hg := h.entries_eq g (hperm.mem_iff.1 hg)

theorem ofEntries_perm_collect (mode : GroupMode) (order : GroupOrder) (entries : List Entry) :
    (ofEntries mode order entries).Perm (collect mode entries) := by
  have hsort := List.mergeSort_perm (collect mode entries) notAfter
  cases order with
  | ascending => exact hsort
  | descending => exact (List.reverse_perm _).trans hsort

/-- **The groups that are shown are a partition of the entries.** -/
theorem isPartition_ofEntries (mode : GroupMode) (order : GroupOrder) (entries : List Entry) :
    IsPartition mode entries (ofEntries mode order entries) :=
  (isPartition_collect mode entries).perm (ofEntries_perm_collect mode order entries)

/-- An entry of a group is one of the entries, and has the key of the group. -/
theorem IsPartition.mem (h : IsPartition mode entries groups) {g : Group} (hg : g ∈ groups)
    {e : Entry} (he : e ∈ g.entries) : e ∈ entries ∧ keyOf mode e = g.key := by
  rw [h.entries_eq g hg, List.mem_filter, decide_eq_true_eq] at he
  exact he

/-- The key of a group is that of one of the entries. -/
theorem IsPartition.exists_key_eq (h : IsPartition mode entries groups) {g : Group}
    (hg : g ∈ groups) : ∃ e ∈ entries, keyOf mode e = g.key :=
  List.mem_map.1 ((h.mem_keys g.key).1 (List.mem_map_of_mem hg))

theorem IsPartition.entries_ne_nil (h : IsPartition mode entries groups) {g : Group}
    (hg : g ∈ groups) : g.entries ≠ [] := by
  obtain ⟨e, he, hkey⟩ := h.exists_key_eq hg
  have hmem : e ∈ g.entries := by
    rw [h.entries_eq g hg, List.mem_filter]
    exact ⟨he, decide_eq_true hkey⟩
  exact List.ne_nil_of_mem hmem

/-- Groups are determined by their keys. -/
theorem IsPartition.eq_map_key (h : IsPartition mode entries groups) :
    groups = (groups.map key).map fun k => ⟨k, entries.filter fun e => keyOf mode e = k⟩ := by
  rw [List.map_map]
  conv_lhs => rw [← List.map_id groups]
  refine List.map_congr_left fun g hg => ?_
  rw [id, Function.comp_apply, ← h.entries_eq g hg]

/-- The entries with one key, read off the groups. -/
theorem IsPartition.filter_flatMap (h : IsPartition mode entries groups) (k : Text) :
    ((groups.flatMap Group.entries).filter fun e => keyOf mode e = k) =
      entries.filter fun e => keyOf mode e = k := by
  have hnil (gs : List Group) (hsub : gs ⊆ groups) (hk : k ∉ gs.map key) :
      ((gs.flatMap Group.entries).filter fun e => keyOf mode e = k) = [] := by
    rw [List.filter_eq_nil_iff]
    intro e he heq
    obtain ⟨g, hg, heg⟩ := List.mem_flatMap.1 he
    rw [decide_eq_true_eq, (h.mem (hsub hg) heg).2] at heq
    exact hk (heq ▸ List.mem_map_of_mem hg)
  by_cases hk : k ∈ groups.map key
  · obtain ⟨before, g, after, rfl, rfl, hbefore, hafter⟩ := exists_split_of_mem h.nodup_keys hk
    rw [List.flatMap_append, List.flatMap_cons, List.filter_append, List.filter_append,
      hnil before (List.subset_append_left _ _) hbefore,
      hnil after (fun g' hg' => by simp [hg']) hafter, h.entries_eq g (by simp),
      List.filter_filter, List.nil_append, List.append_nil]
    simp
  · rw [hnil groups (List.Subset.refl groups) hk,
      filter_key_eq_nil fun hmem => hk ((h.mem_keys k).2 hmem)]

/-- No entry is lost and none is shown twice. -/
theorem IsPartition.flatMap_perm (h : IsPartition mode entries groups) :
    (groups.flatMap Group.entries).Perm entries :=
  perm_of_filter_key_eq (keyOf mode) h.filter_flatMap

end Partition

/-! ## The order in which the groups are shown -/

theorem pairwise_mergeSort_notAfter (groups : List Group) :
    (groups.mergeSort notAfter).Pairwise fun g h => notAfter g h = true := by
  refine List.pairwise_mergeSort (fun _ _ _ => Std.TransCmp.isLE_trans) (fun a b => ?_) groups
  rw [notAfter, notAfter, compareKeys_swap a.key b.key]
  cases compareKeys a.key b.key <;> rfl

/-- Ascending groups come in strictly ascending order of their keys. -/
theorem pairwise_ofEntries_ascending (mode : GroupMode) (entries : List Entry) :
    (ofEntries mode .ascending entries).Pairwise fun g h => compareKeys g.key h.key = .lt := by
  have hnodup := (isPartition_ofEntries mode .ascending entries).nodup_keys
  refine ((pairwise_mergeSort_notAfter _).and (List.pairwise_map.1 hnodup)).imp ?_
  rintro g h ⟨hle, hne⟩
  rw [notAfter] at hle
  cases hcompare : compareKeys g.key h.key with
  | lt => rfl
  | eq => exact absurd (Std.LawfulEqCmp.eq_of_compare hcompare) hne
  | gt => simp [hcompare] at hle

/-- Descending groups come in strictly descending order of their keys. -/
theorem pairwise_ofEntries_descending (mode : GroupMode) (entries : List Entry) :
    (ofEntries mode .descending entries).Pairwise fun g h => compareKeys g.key h.key = .gt := by
  have hreverse : ofEntries mode .descending entries =
      (ofEntries mode .ascending entries).reverse := rfl
  rw [hreverse, List.pairwise_reverse]
  refine (pairwise_ofEntries_ascending mode entries).imp fun hlt => ?_
  rwa [Std.OrientedCmp.gt_iff_lt]

section Shown

variable (mode : GroupMode) (order : GroupOrder) {entries entries' : List Entry}

/-- The keys of the groups are strictly monotone in the order that is asked for. -/
theorem pairwise_key_ofEntries (entries : List Entry) :
    ((ofEntries mode order entries).map key).Pairwise fun k l =>
      compareKeys k l = order.comparison := by
  rw [List.pairwise_map]
  cases order with
  | ascending => exact pairwise_ofEntries_ascending mode entries
  | descending => exact pairwise_ofEntries_descending mode entries

/-- The order in which the entries are given does not matter for the keys of the groups. -/
theorem map_key_ofEntries_of_perm (hperm : entries'.Perm entries) :
    (ofEntries mode order entries').map key = (ofEntries mode order entries).map key := by
  have hpartition := isPartition_ofEntries mode order entries
  have hpartition' := isPartition_ofEntries mode order entries'
  have hkeys : ((ofEntries mode order entries').map key).Perm
      ((ofEntries mode order entries).map key) := by
    refine (List.perm_ext_iff_of_nodup hpartition'.nodup_keys hpartition.nodup_keys).2 fun k => ?_
    rw [hpartition'.mem_keys, hpartition.mem_keys, (hperm.map _).mem_iff]
  refine hkeys.eq_of_pairwise (fun k l _ _ hkl hlk => ?_) (pairwise_key_ofEntries mode order entries')
    (pairwise_key_ofEntries mode order entries)
  exact absurd hlk (compareKeys_asymm order k l hkl)

/-- **The groups are an ordered partition of the entries.** No group is empty. The groups have
different keys, namely those of the entries, and a group holds the entries with its key as they were
given, so that each entry is shown once. The keys are strictly ascending or strictly descending, and
they are the same for every order in which the entries are given. -/
theorem ofEntries_orderedPartition (mode : GroupMode) (order : GroupOrder) (entries : List Entry) :
    (∀ g ∈ ofEntries mode order entries, g.entries ≠ []) ∧
      IsPartition mode entries (ofEntries mode order entries) ∧
      ((ofEntries mode order entries).flatMap Group.entries).Perm entries ∧
      (((ofEntries mode order entries).map key).Pairwise fun k l =>
        compareKeys k l = order.comparison) ∧
      ∀ entries' : List Entry, entries'.Perm entries →
        (ofEntries mode order entries').map key = (ofEntries mode order entries).map key := by
  have hpartition := isPartition_ofEntries mode order entries
  refine ⟨fun g hg => hpartition.entries_ne_nil hg, hpartition, hpartition.flatMap_perm,
    pairwise_key_ofEntries mode order entries, fun entries' hperm => ?_⟩
  exact map_key_ofEntries_of_perm mode order hperm

end Shown

end Group

end PubList
