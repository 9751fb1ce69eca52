import PubList.Entry.Sort
import PubList.Proofs.Grouping
import PubList.Proofs.Numeral

/-!
# Years as group keys

The year of an entry is read twice, and not in one way. Sorting reads it without the blanks around it.
The key of its group keeps the blanks, and a key with blanks around it is no number to the order of keys
(`readInt64?_keyOf_year`).

Of two entries with numeric years the later one is therefore shown first, in descending groups by year,
exactly if the key of the earlier one has no blanks around it, or if both keys have some and their
characters go that way (`later_year_first_iff`).
-/

namespace PubList

/-- The text has no blanks around it. -/
def Text.IsTrimmed (t : Text) : Prop := trim t = t

instance (t : Text) : Decidable t.IsTrimmed := inferInstanceAs (Decidable (Text.trim t = t))

/-- Of two elements of a sorted list, the one that may not stand behind the other stands before it. -/
theorem pair_sublist_iff_of_pairwise {α : Type} {R : α → α → Prop}
    (hasymm : ∀ a b, R a b → ¬R b a) {l : List α} (hl : l.Pairwise R) {a b : α} (ha : a ∈ l)
    (hb : b ∈ l) : [a, b].Sublist l ↔ R a b := by
  constructor
  · intro hsublist
    exact List.pairwise_pair.1 (hl.sublist hsublist)
  · intro hab
    obtain ⟨before, after, rfl⟩ := List.append_of_mem ha
    rw [List.pairwise_append] at hl
    rcases List.mem_append.1 hb with hb | hb
    · exact absurd (hl.2.2 b hb a List.mem_cons_self) (hasymm a b hab)
    · rcases List.mem_cons.1 hb with rfl | hb
      · exact absurd hab (hasymm b b hab)
      · exact ((List.singleton_sublist.2 hb).cons_cons a).trans (List.sublist_append_right _ _)

namespace Group

/-- To the order of keys, the year of an entry is the number by which the entry is sorted if it has no
blanks around it, and no number otherwise. -/
theorem readInt64?_keyOf_year {e : Entry} {x : Int} (h : e.yearNumber? = some x) :
    Number.readInt64? (keyOf .year e) = if (keyOf .year e).IsTrimmed then some x else none := by
  obtain ⟨year, hyear, hread⟩ := Option.bind_eq_some_iff.1 h
  have hkey : keyOf .year e = year := by rw [keyOf, hyear, Option.getD_some]
  rw [hkey]
  by_cases htrim : year.IsTrimmed
  · rw [if_pos htrim, ← htrim, hread]
  · rw [if_neg htrim, Option.eq_none_iff_forall_ne_some]
    exact fun n hn => htrim (Number.trim_of_readInt64? hn)

/-- How the keys of two numeric years compare. -/
theorem compareKeys_year_eq_gt_iff {a b : Entry} {x y : Int} (hx : a.yearNumber? = some x)
    (hy : b.yearNumber? = some y) (hlt : y < x) :
    compareKeys (keyOf .year a) (keyOf .year b) = .gt ↔
      (keyOf .year b).IsTrimmed ∨
        ¬(keyOf .year a).IsTrimmed ∧ compare (keyOf .year a) (keyOf .year b) = .gt := by
  have hcompare : compare x y = .gt := Int.compare_eq_gt.2 hlt
  rw [compareKeys, readInt64?_keyOf_year hx, readInt64?_keyOf_year hy]
  -- A key with blanks around it is no number, and stands behind all numbers.
  by_cases ha : (keyOf .year a).IsTrimmed <;> by_cases hb : (keyOf .year b).IsTrimmed
  · simp [ha, hb, hcompare]
  · simp [ha, hb]
  · simp [ha, hb]
  · simp [ha, hb]

/-- **Which of two years is shown first.** In descending groups by year, the group of the later one of
two numeric years stands before that of the earlier one exactly if its key compares greater, and it
does so exactly if the earlier year has no blanks around it, or if both have and the characters of the
later one are greater. -/
theorem later_year_first_iff {entries : List Entry} {a b : Entry} (ha : a ∈ entries)
    (hb : b ∈ entries) {x y : Int} (hx : a.yearNumber? = some x) (hy : b.yearNumber? = some y)
    (hlt : y < x) :
    ([keyOf .year a, keyOf .year b].Sublist ((ofEntries .year .descending entries).map key) ↔
        compareKeys (keyOf .year a) (keyOf .year b) = .gt) ∧
      (compareKeys (keyOf .year a) (keyOf .year b) = .gt ↔
        (keyOf .year b).IsTrimmed ∨
          ¬(keyOf .year a).IsTrimmed ∧ compare (keyOf .year a) (keyOf .year b) = .gt) := by
  have hpartition := isPartition_ofEntries .year .descending entries
  have hmem {e : Entry} (he : e ∈ entries) :
      keyOf .year e ∈ (ofEntries .year .descending entries).map key :=
    (hpartition.mem_keys _).2 (List.mem_map_of_mem he)
  refine ⟨?_, compareKeys_year_eq_gt_iff hx hy hlt⟩
  exact pair_sublist_iff_of_pairwise (compareKeys_asymm .descending)
    (pairwise_key_ofEntries .year .descending entries) (hmem ha) (hmem hb)

/-- A later year with a blank in front of it is shown before an earlier one without. -/
theorem later_year_first_iff_padded :
    let a : Entry := ⟨"a".toList, [("year".toList, " 2021".toList)]⟩
    let b : Entry := ⟨"b".toList, [("year".toList, "+2020".toList)]⟩
    let c : Entry := ⟨"c".toList, [("year".toList, "in press".toList)]⟩
    [" 2021".toList, "+2020".toList].Sublist ((ofEntries .year .descending [b, c, a]).map key) := by
  intro a b c
  have ha : a ∈ [b, c, a] := by simp
  have hb : b ∈ [b, c, a] := by simp
  have hx : a.yearNumber? = some 2021 := by decide
  have hy : b.yearNumber? = some 2020 := by decide
  have hiff := later_year_first_iff ha hb hx hy (by decide)
  exact hiff.1.2 (hiff.2.2 (.inl (by decide)))

/-- An earlier year with a blank in front of it is shown before a later one without. -/
theorem earlier_year_first :
    let a : Entry := ⟨"a".toList, [("year".toList, "2021".toList)]⟩
    let b : Entry := ⟨"b".toList, [("year".toList, " 2020".toList)]⟩
    a.yearNumber? = some 2021 ∧ b.yearNumber? = some 2020 ∧
      compareKeys (keyOf .year a) (keyOf .year b) = .lt ∧
      (ofEntries .year .descending [a, b]).map key = [" 2020".toList, "2021".toList] := by
  intro a b
  refine ⟨by decide, by decide, by decide, ?_⟩
  have hcollect : collect .year [a, b] = [⟨"2021".toList, [a]⟩, ⟨" 2020".toList, [b]⟩] := by decide
  have hsorted : [⟨"2021".toList, [a]⟩, ⟨" 2020".toList, [b]⟩].Pairwise fun g h =>
      notAfter g h = true := List.pairwise_pair.2 (by decide)
  rw [ofEntries, hcollect, List.mergeSort_of_pairwise hsorted]
  rfl

end Group

end PubList
