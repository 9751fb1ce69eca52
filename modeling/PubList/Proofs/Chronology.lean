import PubList.Entry.Sort
import PubList.Proofs.Grouping
import PubList.Proofs.Numeral
import PubList.Template.Render

/-!
# Entries and groups in the order of their dates

Sorting goes by the date of an entry (`Entry.date?`), and entries that may stand on either side of
each other have the same date. Where dates differ, the sorted list is therefore the same for every
order in which the entries are given (`sortEntries_eq_of_perm`), and so is all that is made of it.

Years as they are usually written are read alike by the sort and by the order of group keys. Shown
one after the other, the groups by year then are the sorted list (`flatMap_ofEntries_sortEntries`):
both go by year, and for every year both hold the same entries in the same order.
-/

namespace PubList

/-! ## Dates -/

namespace Entry

/-- What an entry is sorted by: the number of its year and that of its month. An entry without a
numeric year has no date, whatever its month. -/
def date? (e : Entry) : Option (Int × Option Nat) :=
  e.yearNumber?.map fun year => (year, e.monthNumber?)

theorem date?_eq_none_iff {e : Entry} : e.date? = none ↔ e.yearNumber? = none := by
  rw [date?, Option.map_eq_none_iff]

theorem date?_eq_some_iff {e : Entry} {year : Int} {month : Option Nat} :
    e.date? = some (year, month) ↔ e.yearNumber? = some year ∧ e.monthNumber? = month := by
  rw [date?, Option.map_eq_some_iff]
  constructor
  · rintro ⟨x, hx, heq⟩
    cases heq
    exact ⟨hx, rfl⟩
  · rintro ⟨hx, rfl⟩
    exact ⟨year, hx, rfl⟩

theorem monthNotEarlier_antisymm {m n : Option Nat} (hmn : monthNotEarlier m n = true)
    (hnm : monthNotEarlier n m = true) : m = n := by
  cases m <;> cases n <;> simp_all [monthNotEarlier]
  omega

/-- Entries that may stand on either side of each other have the same date. -/
theorem date?_eq_of_newestFirst {a b : Entry} (hab : newestFirst a b = true)
    (hba : newestFirst b a = true) : a.date? = b.date? := by
  unfold newestFirst at hab hba
  rw [date?, date?]
  cases ha : a.yearNumber? <;> cases hb : b.yearNumber? <;> simp_all
  next x y =>
    rcases hab with hlt | ⟨rfl, hmonth⟩
    · omega
    · exact ⟨rfl, monthNotEarlier_antisymm hmonth (by simpa using hba)⟩

theorem monthNotEarlier_self (m : Option Nat) : monthNotEarlier m m = true := by
  simpa using monthNotEarlier_total m m

/-- Entries of the same date may stand on either side of each other. -/
theorem newestFirst_of_date?_eq {a b : Entry} (h : a.date? = b.date?) : newestFirst a b = true := by
  cases hb : b.date? with
  | none =>
    rw [hb] at h
    rw [newestFirst, date?_eq_none_iff.1 h, date?_eq_none_iff.1 hb]
  | some date =>
    obtain ⟨year, month⟩ := date
    obtain ⟨hayear, hamonth⟩ := date?_eq_some_iff.1 (h.trans hb)
    obtain ⟨hbyear, hbmonth⟩ := date?_eq_some_iff.1 hb
    simp [newestFirst, hayear, hamonth, hbyear, hbmonth, monthNotEarlier_self]

/-- An entry that may stand before another one has a year that is not earlier. -/
theorem yearNumber_le_of_newestFirst {a b : Entry} {x y : Int} (hab : newestFirst a b = true)
    (ha : a.yearNumber? = some x) (hb : b.yearNumber? = some y) : y ≤ x := by
  simp only [newestFirst, ha, hb, Bool.or_eq_true, Bool.and_eq_true, decide_eq_true_eq] at hab
  omega

end Entry

theorem sortEntries_perm (entries : List Entry) : (sortEntries entries).Perm entries :=
  List.mergeSort_perm entries Entry.newestFirst

theorem pairwise_sortEntries (entries : List Entry) :
    (sortEntries entries).Pairwise fun a b => Entry.newestFirst a b = true := by
  refine List.pairwise_mergeSort (fun a b c hab hbc => ?_) Entry.newestFirst_total entries
  exact Entry.newestFirst_trans hab hbc

/-! ## The order in which the entries are given -/

/-- Entries with different dates, at most one of them without a date, are sorted in only one way. -/
theorem sortEntries_eq_of_perm {entries entries' : List Entry} (hperm : entries.Perm entries')
    (hdates : (entries.map Entry.date?).Nodup) : sortEntries entries = sortEntries entries' := by
  have hsorted : (sortEntries entries).Perm (sortEntries entries') :=
    (sortEntries_perm entries).trans (hperm.trans (sortEntries_perm entries').symm)
  refine hsorted.eq_of_pairwise (fun a b ha hb hab hba => ?_) (pairwise_sortEntries entries)
    (pairwise_sortEntries entries')
  have ha' : a ∈ entries := (sortEntries_perm entries).mem_iff.1 ha
  have hb' : b ∈ entries := hperm.mem_iff.2 ((sortEntries_perm entries').mem_iff.1 hb)
  exact List.inj_on_of_nodup_map hdates ha' hb' (Entry.date?_eq_of_newestFirst hab hba)

/-- **The order in which the entries are given does not matter.** Where no two entries have the same
date, and at most one has none, sorting, grouping and rendering give the same text or the same error
for every order of the entries. -/
theorem render_sortEntries_perm (config : Config) (template : Text) {entries entries' : List Entry}
    (hperm : entries.Perm entries') (hdates : (entries.map Entry.date?).Nodup) :
    Template.render config
        (Group.ofEntries config.groupBy config.order (sortEntries entries)) template =
      Template.render config
        (Group.ofEntries config.groupBy config.order (sortEntries entries')) template := by
  rw [sortEntries_eq_of_perm hperm hdates]

/-- A year with a sign and a blank, an entry with a month and no year, and a year that is not positive,
given in two orders. -/
theorem render_sortEntries_perm_three :
    let a : Entry := ⟨"a".toList, [("year".toList, " +2020".toList)]⟩
    let b : Entry := ⟨"b".toList, [("month".toList, "3".toList)]⟩
    let c : Entry := ⟨"c".toList, [("year".toList, "-44".toList)]⟩
    let template := "@\x7bgroup@@groupkey@: @\x7bentry@@key@ @\x7dentry@@\x7dgroup@".toList
    Template.render {} (Group.ofEntries .year .descending (sortEntries [a, b, c])) template =
      Template.render {} (Group.ofEntries .year .descending (sortEntries [c, a, b])) template := by
  intro a b c template
  have hperm : [a, b, c].Perm [c, a, b] := by decide
  have hdates : ([a, b, c].map Entry.date?) = [some (2020, none), none, some (-44, none)] := by decide
  refine render_sortEntries_perm {} template hperm ?_
  rw [hdates]
  decide

/-! ## Groups by year -/

/-- The year of the entry is the decimal text of a 64-bit integer, without anything around it. -/
def Entry.HasPlainYear (e : Entry) : Prop :=
  ∃ n : Int, Number.isInt64 n = true ∧ e.year? = some (Text.ofInt n)

/-- A plain year is what the entry is sorted by, and what it is grouped by. -/
theorem Entry.HasPlainYear.exists_eq {e : Entry} (h : e.HasPlainYear) :
    ∃ n : Int, Number.isInt64 n = true ∧ e.yearNumber? = some n ∧
      Group.keyOf .year e = Text.ofInt n := by
  obtain ⟨n, hn, hyear⟩ := h
  refine ⟨n, hn, ?_, ?_⟩
  · rw [yearNumber?, hyear, Option.bind_some, Text.trim_ofInt, Number.readInt64?_ofInt hn]
  · rw [Group.keyOf, hyear, Option.getD_some]

/-- Keys that are plain numbers go by the numbers. -/
theorem Group.compareKeys_ofInt {m n : Int} (hm : Number.isInt64 m = true)
    (hn : Number.isInt64 n = true) : compareKeys (Text.ofInt m) (Text.ofInt n) = compare m n := by
  rw [compareKeys, Number.readInt64?_ofInt hm, Number.readInt64?_ofInt hn]
  simp only
  cases hcompare : compare m n with
  | lt => rfl
  | gt => rfl
  | eq =>
    have hmn : m = n := Std.LawfulEqCmp.eq_of_compare hcompare
    rw [hmn, Ordering.eq_then]
    exact Std.ReflCmp.compare_self

/-- **Groups by year, in descending order, are the sorted list.** Where all years are plain, the
entries of the groups, one group after the other, are the entries in the order of their dates. -/
theorem flatMap_ofEntries_sortEntries (entries : List Entry)
    (hyears : ∀ e ∈ entries, e.HasPlainYear) :
    (Group.ofEntries .year .descending (sortEntries entries)).flatMap Group.entries =
      sortEntries entries := by
  have hpartition := Group.isPartition_ofEntries .year .descending (sortEntries entries)
  refine eq_of_filter_key_eq (Group.keyOf .year)
    (fun k k' => (Group.compareKeys k k').isGE = true) (fun a _ b _ hab hba => ?_) ?_ ?_
    hpartition.filter_flatMap
  · exact Std.LawfulEqCmp.eq_of_compare (Std.OrientedCmp.isGE_antisymm hab hba)
  · -- Entries of one group have one key, and those of a later group have a smaller one.
    rw [List.pairwise_flatMap]
    refine ⟨fun g hg => List.pairwise_of_forall_mem_list fun a ha b hb => ?_, ?_⟩
    · have hself : Group.compareKeys g.key g.key = .eq := Std.ReflCmp.compare_self
      rw [(hpartition.mem hg ha).2, (hpartition.mem hg hb).2, hself]
      rfl
    · refine (Group.pairwise_ofEntries_descending .year _).imp_of_mem fun hg hh hgt a ha b hb => ?_
      rw [(hpartition.mem hg ha).2, (hpartition.mem hh hb).2, hgt]
      rfl
  · refine (pairwise_sortEntries entries).imp_of_mem fun ha hb hab => ?_
    have hplain {e : Entry} (he : e ∈ sortEntries entries) : e.HasPlainYear :=
      hyears e ((sortEntries_perm entries).mem_iff.1 he)
    obtain ⟨x, hx, hxyear, hxkey⟩ := (hplain ha).exists_eq
    obtain ⟨y, hy, hyyear, hykey⟩ := (hplain hb).exists_eq
    rw [hxkey, hykey, Group.compareKeys_ofInt hx hy, Int.isGE_compare]
    exact Entry.yearNumber_le_of_newestFirst hab hxyear hyyear

/-- Years of different lengths and signs, one of them twice. -/
theorem flatMap_ofEntries_sortEntries_four :
    let entries : List Entry :=
      [⟨"a".toList, [("year".toList, "-5".toList)]⟩, ⟨"b".toList, [("year".toList, "2020".toList)]⟩,
        ⟨"c".toList, [("year".toList, "999".toList)]⟩, ⟨"d".toList, [("year".toList, "2020".toList)]⟩]
    (Group.ofEntries .year .descending (sortEntries entries)).flatMap Group.entries =
      sortEntries entries := by
  intro entries
  refine flatMap_ofEntries_sortEntries entries fun e he => ?_
  simp only [entries, List.mem_cons, List.not_mem_nil, or_false] at he
  rcases he with rfl | rfl | rfl | rfl
  · exact ⟨-5, by decide, by decide⟩
  · exact ⟨2020, by decide, by decide⟩
  · exact ⟨999, by decide, by decide⟩
  · exact ⟨2020, by decide, by decide⟩

end PubList
