import PubList.Entry.Basic

/-!
# Entries by date

Entries are sorted newest first: by the number of the year, then by the number of the month, and
entries without a numeric year last. The sort is stable.
-/

namespace PubList

namespace Entry

/-- The first three letters of the months. -/
def monthPrefixes : List Text :=
  ["jan", "feb", "mar", "apr", "may", "jun", "jul", "aug", "sep", "oct", "nov", "dec"].map
    String.toList

/-- The year as a number. -/
def yearNumber? (e : Entry) : Option Int :=
  e.year?.bind fun year => Number.readInt64? (Text.trim year)

/-- The number of a month that is written in digits or begins like the name of a month. -/
def readMonth? (month : Text) : Option Nat :=
  match Number.readUInt32? month with
  | some n => some n
  | none =>
    (monthPrefixes.findIdx? fun name => (Text.dropMark? name month).isSome).map (· + 1)

/-- The month as a number. -/
def monthNumber? (e : Entry) : Option Nat :=
  e.month?.bind fun month => readMonth? (Text.normalize month)

/-- Whether the first month is not earlier than the second one; no month is the earliest. -/
def monthNotEarlier : Option Nat → Option Nat → Bool
  | _, none => true
  | none, some _ => false
  | some m, some n => n ≤ m

/-- Whether `a` may stand before `b` in the list that is sorted by date. -/
def newestFirst (a b : Entry) : Bool :=
  match a.yearNumber?, b.yearNumber? with
  | some x, some y => y < x || (x = y && monthNotEarlier a.monthNumber? b.monthNumber?)
  | some _, none => true
  | none, some _ => false
  | none, none => true

theorem monthNotEarlier_total (m n : Option Nat) :
    (monthNotEarlier m n || monthNotEarlier n m) = true := by
  cases m <;> cases n <;> simp [monthNotEarlier, Nat.le_total]

theorem monthNotEarlier_trans {m n k : Option Nat} (hmn : monthNotEarlier m n = true)
    (hnk : monthNotEarlier n k = true) : monthNotEarlier m k = true := by
  cases m <;> cases n <;> cases k <;> simp_all [monthNotEarlier]
  omega

theorem newestFirst_total (a b : Entry) : (newestFirst a b || newestFirst b a) = true := by
  have hmonth := monthNotEarlier_total a.monthNumber? b.monthNumber?
  unfold newestFirst
  cases a.yearNumber? <;> cases b.yearNumber? <;> simp_all
  next x y =>
    rcases Int.lt_trichotomy x y with h | rfl | h
    · simp [h]
    · simp [hmonth]
    · simp [h]

theorem newestFirst_trans {a b c : Entry} (hab : newestFirst a b = true)
    (hbc : newestFirst b c = true) : newestFirst a c = true := by
  unfold newestFirst at hab hbc ⊢
  cases ha : a.yearNumber? <;> cases hb : b.yearNumber? <;> cases hc : c.yearNumber? <;>
    simp_all
  next x y z =>
    rcases hab with hxy | ⟨rfl, hxy⟩ <;> rcases hbc with hyz | ⟨rfl, hyz⟩
    · exact .inl (by omega)
    · exact .inl hxy
    · exact .inl hyz
    · exact .inr ⟨rfl, monthNotEarlier_trans hxy hyz⟩

end Entry

/-- The entries from the newest to the oldest. -/
def sortEntries (entries : List Entry) : List Entry := entries.mergeSort Entry.newestFirst

end PubList
