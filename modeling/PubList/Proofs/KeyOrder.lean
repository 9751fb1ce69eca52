import PubList.Proofs.Grouping
import PubList.Proofs.Numeral

/-!
# The order of group keys

A key is a number if it spells an integer of 64 bits (`Denotes`). One number has many spellings, such
as `7`, `07` and `+7`, and digits for a larger integer are no number. `Precedes` says which of two keys
comes first: numbers come before other keys and go by their values, and where the values do not tell two
keys apart their characters do. The comparison of keys decides it (`compareKeys_eq_lt_iff`).

It is a strict total order of all texts (`compareKeys_strictTotalOrder`): only a key and itself compare
equal, however many spellings a number has.
-/

namespace PubList

/-- Texts are compared like words in a dictionary, by the code points of their characters. -/
theorem Text.compare_eq_lt_iff {s t : Text} : compare s t = .lt ↔ s < t := by
  induction s generalizing t with
  | nil =>
    cases t with
    | nil => simp
    | cons d t => exact iff_of_true rfl (List.nil_lt_cons d t)
  | cons c s ih =>
    cases t with
    | nil => exact iff_of_false (by rintro ⟨⟩) (List.not_lt_nil _)
    | cons d t =>
      have hcons : compare (c :: s) (d :: t) = (compareOfLessAndEq c d).then (compare s t) :=
        List.compareLex_cons_cons
      rw [hcons, List.cons_lt_cons_iff, ← ih, Ordering.then_eq_lt, compareOfLessAndEq_eq_lt,
        compareOfLessAndEq_eq_eq Char.le_refl Char.not_le]

namespace Group

/-- A key denotes an integer of 64 bits that it spells. -/
def Denotes (k : Text) (n : Int) : Prop := Number.Spells k n ∧ Number.isInt64 n = true

theorem denotes_iff {k : Text} {n : Int} : Denotes k n ↔ Number.readInt64? k = some n :=
  Number.readInt64?_eq_some_iff.symm

theorem not_denotes_iff {k : Text} : (∀ n, ¬ Denotes k n) ↔ Number.readInt64? k = none := by
  simp only [denotes_iff, Option.eq_none_iff_forall_ne_some, ne_eq]

instance (k : Text) (n : Int) : Decidable (Denotes k n) := decidable_of_iff _ denotes_iff.symm

/-- The first key comes before the second one. -/
inductive Precedes : Text → Text → Prop
  /-- The smaller number comes first, however the numbers are spelled. -/
  | smaller {k l : Text} {x y : Int} (hk : Denotes k x) (hl : Denotes l y) (h : x < y) : Precedes k l
  /-- Two spellings of one number go by their characters. -/
  | spelling {k l : Text} {x : Int} (hk : Denotes k x) (hl : Denotes l x) (h : k < l) : Precedes k l
  /-- A number comes before any other key. -/
  | number {k l : Text} {x : Int} (hk : Denotes k x) (hl : ∀ y, ¬ Denotes l y) : Precedes k l
  /-- Keys that are no numbers go by their characters. -/
  | text {k l : Text} (hk : ∀ x, ¬ Denotes k x) (hl : ∀ y, ¬ Denotes l y) (h : k < l) : Precedes k l

/-- The comparison of keys finds out which one comes first. -/
theorem compareKeys_eq_lt_iff {k l : Text} : compareKeys k l = .lt ↔ Precedes k l := by
  constructor
  · intro h
    unfold compareKeys at h
    split at h
    · next x y hx hy =>
      rw [← denotes_iff] at hx hy
      rcases Ordering.then_eq_lt.1 h with hlt | ⟨heq, hlt⟩
      · exact .smaller hx hy (Int.compare_eq_lt.1 hlt)
      · obtain rfl := Int.compare_eq_eq.1 heq
        exact .spelling hx hy (Text.compare_eq_lt_iff.1 hlt)
    · next x hx hy => exact .number (denotes_iff.2 hx) (not_denotes_iff.2 hy)
    · cases h
    · next hx hy =>
      exact .text (not_denotes_iff.2 hx) (not_denotes_iff.2 hy) (Text.compare_eq_lt_iff.1 h)
  · intro h
    cases h with
    | smaller hk hl h =>
      simp only [compareKeys, denotes_iff.1 hk, denotes_iff.1 hl, Int.compare_eq_lt.2 h]
      rfl
    | spelling hk hl h =>
      simp only [compareKeys, denotes_iff.1 hk, denotes_iff.1 hl, Std.ReflCmp.compare_self]
      exact Text.compare_eq_lt_iff.2 h
    | number hk hl => simp only [compareKeys, denotes_iff.1 hk, not_denotes_iff.1 hl]
    | text hk hl h =>
      simp only [compareKeys, not_denotes_iff.1 hk, not_denotes_iff.1 hl]
      exact Text.compare_eq_lt_iff.2 h

/-- **The order of group keys.** The comparison of keys is a strict total order of all texts: a key
compares equal to itself only, comparing the other way round reverses the outcome, and coming first is
transitive. Every number comes before every key that is none, and a smaller number before a larger one,
whatever their spellings. All in all, a key comes before another one exactly if it `Precedes` it. -/
theorem compareKeys_strictTotalOrder :
    (∀ k l, compareKeys k l = .eq ↔ k = l) ∧
      (∀ k l, compareKeys l k = (compareKeys k l).swap) ∧
      (∀ k l m, compareKeys k l = .lt → compareKeys l m = .lt → compareKeys k m = .lt) ∧
      (∀ k l x, Denotes k x → (∀ y, ¬ Denotes l y) → compareKeys k l = .lt) ∧
      (∀ k l x y, Denotes k x → Denotes l y → x < y → compareKeys k l = .lt) ∧
      ∀ k l, compareKeys k l = .lt ↔ Precedes k l := by
  refine ⟨fun k l => Std.LawfulEqCmp.compare_eq_iff_eq, compareKeys_swap, fun k l m => ?_, ?_, ?_,
    fun k l => compareKeys_eq_lt_iff⟩
  · exact Std.TransCmp.lt_trans
  · exact fun k l x hk hl => compareKeys_eq_lt_iff.2 (.number hk hl)
  · exact fun k l x y hk hl hlt => compareKeys_eq_lt_iff.2 (.smaller hk hl hlt)

/-- Seven in three spellings between zero and twelve, and digits beyond 64 bits. -/
theorem compareKeys_strictTotalOrder_spellings :
    Denotes "-0".toList 0 ∧ Denotes "007".toList 7 ∧ Denotes "+12".toList 12 ∧
      (∀ y, ¬ Denotes "9223372036854775808".toList y) ∧
      compareKeys "-0".toList "007".toList = .lt ∧
      compareKeys "007".toList "+12".toList = .lt ∧
      compareKeys "-0".toList "+12".toList = .lt ∧
      compareKeys "+12".toList "9223372036854775808".toList = .lt ∧
      compareKeys "007".toList "+7".toList = .gt := by
  have hzero : Denotes "-0".toList 0 := by decide
  have hseven : Denotes "007".toList 7 := by decide
  have htwelve : Denotes "+12".toList 12 := by decide
  have hbeyond : ∀ y, ¬ Denotes "9223372036854775808".toList y := not_denotes_iff.2 (by decide)
  obtain ⟨-, hswap, htrans, hnumber, hsmaller, hprecedes⟩ := compareKeys_strictTotalOrder
  have h₁ := hsmaller _ _ _ _ hzero hseven (by decide)
  have h₂ := hsmaller _ _ _ _ hseven htwelve (by decide)
  have h₃ := (hprecedes _ _).2 (.spelling (x := 7) (k := "+7".toList) (by decide) hseven (by decide))
  refine ⟨hzero, hseven, htwelve, hbeyond, h₁, h₂, htrans _ _ _ h₁ h₂,
    hnumber _ _ _ htwelve hbeyond, ?_⟩
  rw [hswap, h₃]
  rfl

end Group

end PubList
