import PubList.Proofs.Chronology
import PubList.Proofs.KeyOrder

/-!
# The sorted list of entries

`IsNewestFirst` says what the sorted list of entries is: the entries with a year first, from the latest
year to the earliest one, within a year from the last month to the first one, and entries of the same
date as they were given. This determines the list, and sorting gives it (`eq_sortEntries_iff`). What the
year and the month of an entry are is said by how they are spelled (`IsOfYear`, `IsOfMonth`).

Leaving out entries keeps a list newest first (`IsNewestFirst.filter`). A group of the sorted entries is
therefore the sorted group, and it does not matter whether entries are sorted before they are grouped
or group by group afterwards (`ofEntries_sortEntries`).
-/

namespace PubList

namespace Entry

/-! ## Years and months -/

/-- The entry is of a year: its year, without the blanks around it, denotes an integer of 64 bits. -/
def IsOfYear (e : Entry) (n : Int) : Prop :=
  ∃ year, e.get? yearName = some year ∧ Group.Denotes (Text.trim year) n

theorem yearNumber?_eq_some_iff {e : Entry} {n : Int} : e.yearNumber? = some n ↔ e.IsOfYear n := by
  simp only [IsOfYear, Group.denotes_iff]
  exact Option.bind_eq_some_iff

/-- The spellings of the number of a month: the number itself, if it is below `2 ^ 32`, or anything that
begins with the first three letters of the name of the month. -/
inductive SpellsMonth : Text → Nat → Prop
  | number {t : Text} {m : Nat} (h : Number.Spells t m) (hsign : t.head? ≠ some '-')
      (hlt : m < 4294967296) : SpellsMonth t m
  | name {name rest : Text} {i : Nat} (h : monthPrefixes[i]? = some name) :
      SpellsMonth (name ++ rest) (i + 1)

/-- The beginnings of the names have the same length, so that no text has two of them. -/
theorem findIdx?_monthPrefixes {i : Nat} {name : Text} (h : monthPrefixes[i]? = some name)
    (rest : Text) :
    (monthPrefixes.findIdx? fun name' => (Text.dropMark? name' (name ++ rest)).isSome) = some i := by
  obtain ⟨hlt, rfl⟩ := List.getElem?_eq_some_iff.1 h
  have hlength : ∀ name ∈ monthPrefixes, name.length = 3 := by decide
  have hnodup : monthPrefixes.Nodup := by decide
  rw [List.findIdx?_eq_some_iff_getElem]
  refine ⟨hlt, by rw [Text.dropMark?_append, Option.isSome_some], fun j hj hsome => ?_⟩
  obtain ⟨rest', hrest⟩ := Option.isSome_iff_exists.1 hsome
  have hsame := (List.append_inj (Text.dropMark?_eq_some.1 hrest) ?_).1
  · exact Nat.ne_of_lt hj (hnodup.getElem_inj_iff.1 hsame.symm)
  · rw [hlength _ (List.getElem_mem _), hlength _ (List.getElem_mem _)]

theorem readMonth?_eq_some_iff {t : Text} {m : Nat} : readMonth? t = some m ↔ SpellsMonth t m := by
  unfold readMonth?
  constructor
  · intro h
    split at h
    · next n hread =>
      cases h
      obtain ⟨hspells, hsign, hlt⟩ := Number.readUInt32?_eq_some_iff.1 hread
      exact .number hspells hsign hlt
    · obtain ⟨i, hi, rfl⟩ := Option.map_eq_some_iff.1 h
      obtain ⟨hlt, hname, -⟩ := List.findIdx?_eq_some_iff_getElem.1 hi
      obtain ⟨rest, hrest⟩ := Option.isSome_iff_exists.1 hname
      rw [Text.dropMark?_eq_some.1 hrest]
      exact .name (List.getElem?_eq_getElem hlt)
  · intro h
    cases h with
    | number hspells hsign hlt => rw [Number.readUInt32?_eq_some_iff.2 ⟨hspells, hsign, hlt⟩]
    | @name name rest i hname =>
      have hletters : ∀ name ∈ monthPrefixes,
          name ≠ [] ∧ ∀ c ∈ name, c.isDigit = false ∧ c ≠ '+' ∧ c ≠ '-' := by decide
      obtain ⟨hne, hletters⟩ := hletters name (List.mem_of_getElem? hname)
      obtain ⟨c, s, hs⟩ := List.exists_cons_of_ne_nil hne
      obtain ⟨hdigit, hplus, hminus⟩ := hletters c (hs ▸ List.mem_cons_self)
      have hnone : Number.readUInt32? (name ++ rest) = none := by
        refine Option.eq_none_iff_forall_ne_some.2 fun n hread => ?_
        rw [hs] at hread
        exact Number.not_spells_cons hdigit hplus hminus _ _
          (Number.readUInt32?_eq_some_iff.1 hread).1
      rw [hnone, findIdx?_monthPrefixes hname]
      rfl

/-- The entry is of a month: its month, in lower case and without the blanks around it, spells one. -/
def IsOfMonth (e : Entry) (m : Nat) : Prop :=
  ∃ month, e.get? monthName = some month ∧ SpellsMonth (Text.normalize month) m

theorem monthNumber?_eq_some_iff {e : Entry} {m : Nat} :
    e.monthNumber? = some m ↔ e.IsOfMonth m := by
  simp only [IsOfMonth, ← readMonth?_eq_some_iff]
  exact Option.bind_eq_some_iff

/-! ## The order of two entries -/

theorem monthNotEarlier_iff {m n : Option Nat} :
    monthNotEarlier m n = true ↔
      (n ≠ none → m ≠ none) ∧ ∀ i j, m = some i → n = some j → j ≤ i := by
  cases m <;> cases n <;> simp [monthNotEarlier]

/-- What the order of entries says about their years and months. -/
theorem newestFirst_iff {a b : Entry} :
    newestFirst a b = true ↔
      (b.yearNumber? ≠ none → a.yearNumber? ≠ none) ∧
        (∀ x y, a.yearNumber? = some x → b.yearNumber? = some y → y ≤ x) ∧
        ∀ x, a.yearNumber? = some x → b.yearNumber? = some x →
          (b.monthNumber? ≠ none → a.monthNumber? ≠ none) ∧
            ∀ m n, a.monthNumber? = some m → b.monthNumber? = some n → n ≤ m := by
  simp only [← monthNotEarlier_iff]
  cases ha : a.yearNumber? with
  | none => cases hb : b.yearNumber? <;> simp [newestFirst, ha, hb]
  | some x =>
    cases hb : b.yearNumber? with
    | none => simp [newestFirst, ha, hb]
    | some y =>
      simp only [newestFirst, ha, hb, Bool.or_eq_true, Bool.and_eq_true, decide_eq_true_eq]
      constructor
      · rintro (hlt | ⟨rfl, hmonth⟩)
        · refine ⟨fun _ => Option.some_ne_none x, ?_, ?_⟩
          · rintro _ _ ⟨⟩ ⟨⟩
            exact Int.le_of_lt hlt
          · rintro _ ⟨⟩ ⟨⟩
            omega
        · refine ⟨fun _ => Option.some_ne_none x, ?_, fun _ _ _ => hmonth⟩
          rintro _ _ ⟨⟩ ⟨⟩
          exact Int.le_refl x
      · rintro ⟨-, hle, hmonth⟩
        rcases Int.lt_or_eq_of_le (hle x y rfl rfl) with hlt | rfl
        · exact .inl hlt
        · exact .inr ⟨rfl, hmonth y rfl rfl⟩

end Entry

/-! ## The list that is newest first -/

open Entry

/-- The list `sorted` holds the entries from the newest to the oldest one: entries with a year stand
before those without, later years before earlier ones, and within a year entries with a month before
those without and later months before earlier ones. Entries with the same year and month, and entries
without a year, stand as they were given. -/
structure IsNewestFirst (entries sorted : List Entry) : Prop where
  perm : sorted.Perm entries
  year_first : sorted.Pairwise fun a b => b.yearNumber? ≠ none → a.yearNumber? ≠ none
  year_le : sorted.Pairwise fun a b =>
    ∀ x y, a.yearNumber? = some x → b.yearNumber? = some y → y ≤ x
  month_first : sorted.Pairwise fun a b =>
    ∀ x, a.yearNumber? = some x → b.yearNumber? = some x →
      b.monthNumber? ≠ none → a.monthNumber? ≠ none
  month_le : sorted.Pairwise fun a b =>
    ∀ x, a.yearNumber? = some x → b.yearNumber? = some x →
      ∀ m n, a.monthNumber? = some m → b.monthNumber? = some n → n ≤ m
  dated_stable : ∀ year month,
    (sorted.filter fun e => e.yearNumber? = some year ∧ e.monthNumber? = month) =
      entries.filter fun e => e.yearNumber? = some year ∧ e.monthNumber? = month
  undated_stable : (sorted.filter fun e => e.yearNumber? = none) =
    entries.filter fun e => e.yearNumber? = none

section NewestFirst

variable {entries sorted sorted' : List Entry}

/-- A list is newest first if it is sorted and holds the entries of each date as they were given. -/
theorem isNewestFirst_iff :
    IsNewestFirst entries sorted ↔
      (sorted.Pairwise fun a b => newestFirst a b = true) ∧
        ∀ date, (sorted.filter fun e => e.date? = date) =
          entries.filter fun e => e.date? = date := by
  constructor
  · intro h
    refine ⟨?_, fun date => ?_⟩
    · have hall := h.year_first.and (h.year_le.and (h.month_first.and h.month_le))
      refine hall.imp fun ⟨hyear, hle, hfirst, hmonth⟩ => newestFirst_iff.2 ⟨hyear, hle, ?_⟩
      exact fun x hx hy => ⟨hfirst x hx hy, hmonth x hx hy⟩
    · cases date with
      | none => simpa only [date?_eq_none_iff] using h.undated_stable
      | some date =>
        obtain ⟨year, month⟩ := date
        simpa only [date?_eq_some_iff] using h.dated_stable year month
  · rintro ⟨hsorted, hstable⟩
    refine ⟨perm_of_filter_key_eq date? hstable, ?_, ?_, ?_, ?_, fun year month => ?_, ?_⟩
    · exact hsorted.imp fun hab => (newestFirst_iff.1 hab).1
    · exact hsorted.imp fun hab => (newestFirst_iff.1 hab).2.1
    · exact hsorted.imp fun hab x hx hy => ((newestFirst_iff.1 hab).2.2 x hx hy).1
    · exact hsorted.imp fun hab x hx hy => ((newestFirst_iff.1 hab).2.2 x hx hy).2
    · simpa only [date?_eq_some_iff] using hstable (some (year, month))
    · simpa only [date?_eq_none_iff] using hstable none

/-- There is only one list that is newest first. -/
theorem IsNewestFirst.unique (h : IsNewestFirst entries sorted) (h' : IsNewestFirst entries sorted') :
    sorted = sorted' := by
  obtain ⟨hsorted, hstable⟩ := isNewestFirst_iff.1 h
  obtain ⟨hsorted', hstable'⟩ := isNewestFirst_iff.1 h'
  refine eq_of_pairwise_of_filter_key_eq Entry.date? (fun a _ b _ hab hba => ?_) hsorted hsorted'
    fun date => (hstable date).trans (hstable' date).symm
  exact date?_eq_of_newestFirst hab hba

/-- Leaving out entries keeps the list newest first. -/
theorem IsNewestFirst.filter (h : IsNewestFirst entries sorted) (p : Entry → Bool) :
    IsNewestFirst (entries.filter p) (sorted.filter p) := by
  obtain ⟨hsorted, hstable⟩ := isNewestFirst_iff.1 h
  refine isNewestFirst_iff.2 ⟨hsorted.filter p, fun date => ?_⟩
  rw [List.filter_comm, hstable, List.filter_comm]

/-- The sort keeps the order of the entries of one date: they are a sorted part of the list. -/
theorem filter_date?_sortEntries (entries : List Entry) (date : Option (Int × Option Nat)) :
    ((sortEntries entries).filter fun e => e.date? = date) =
      entries.filter fun e => e.date? = date := by
  have hpair : (entries.filter fun e => e.date? = date).Pairwise fun a b =>
      newestFirst a b = true := by
    refine List.pairwise_of_forall_mem_list fun a ha b hb => newestFirst_of_date?_eq ?_
    simp only [List.mem_filter, decide_eq_true_eq] at ha hb
    rw [ha.2, hb.2]
  have hsublist : (entries.filter fun e => e.date? = date).Sublist (sortEntries entries) := by
    refine List.sublist_mergeSort (fun a b c hab hbc => ?_) newestFirst_total hpair
      List.filter_sublist
    exact newestFirst_trans hab hbc
  have hfilter := hsublist.filter fun e => e.date? = date
  rw [List.filter_filter] at hfilter
  simp only [Bool.and_self] at hfilter
  exact (hfilter.eq_of_length ((sortEntries_perm entries).filter _).length_eq.symm).symm

theorem isNewestFirst_sortEntries (entries : List Entry) :
    IsNewestFirst entries (sortEntries entries) :=
  isNewestFirst_iff.2 ⟨pairwise_sortEntries entries, filter_date?_sortEntries entries⟩

/-- **Sorting is the stable sort from the newest to the oldest entry.** The sorted list is the one that
is newest first. The order behind it is a total preorder of all entries. Years and months are what the
entries spell in the fields of these names. -/
theorem eq_sortEntries_iff (entries : List Entry) :
    (∀ sorted, sorted = sortEntries entries ↔ IsNewestFirst entries sorted) ∧
      (∀ a, newestFirst a a = true) ∧
      (∀ a b, newestFirst a b = true ∨ newestFirst b a = true) ∧
      (∀ a b c, newestFirst a b = true → newestFirst b c = true → newestFirst a c = true) ∧
      (∀ (e : Entry) year, e.yearNumber? = some year ↔ e.IsOfYear year) ∧
      ∀ (e : Entry) month, e.monthNumber? = some month ↔ e.IsOfMonth month := by
  refine ⟨fun sorted => ⟨?_, fun h => h.unique (isNewestFirst_sortEntries entries)⟩, fun a => ?_,
    fun a b => ?_, fun a b c => newestFirst_trans, fun _ _ => yearNumber?_eq_some_iff,
    fun _ _ => monthNumber?_eq_some_iff⟩
  · rintro rfl
    exact isNewestFirst_sortEntries entries
  · exact newestFirst_of_date?_eq rfl
  · rw [← Bool.or_eq_true]
    exact newestFirst_total a b

/-! ## Sorting and grouping -/

/-- Sorting what is left is leaving out of what is sorted. -/
theorem filter_sortEntries (entries : List Entry) (p : Entry → Bool) :
    (sortEntries entries).filter p = sortEntries (entries.filter p) :=
  ((isNewestFirst_sortEntries entries).filter p).unique (isNewestFirst_sortEntries _)

/-- **Sorting and grouping can be exchanged.** The groups of the sorted entries are the groups of the
entries, each of them sorted, in the same order. -/
theorem ofEntries_sortEntries (mode : GroupMode) (order : GroupOrder) (entries : List Entry) :
    Group.ofEntries mode order (sortEntries entries) =
      (Group.ofEntries mode order entries).map fun g => ⟨g.key, sortEntries g.entries⟩ := by
  have hpartition := Group.isPartition_ofEntries mode order entries
  have hpartition' := Group.isPartition_ofEntries mode order (sortEntries entries)
  have hkeys := Group.map_key_ofEntries_of_perm mode order (sortEntries_perm entries)
  -- Each group is given by its key, on both sides.
  rw [hpartition'.eq_map_key, hkeys, List.map_map]
  refine List.map_congr_left fun g hg => ?_
  rw [Function.comp_apply, filter_sortEntries, hpartition.entries_eq g hg]

end NewestFirst

end PubList
