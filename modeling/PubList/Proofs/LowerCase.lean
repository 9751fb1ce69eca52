import PubList.Text.Lowercase

/-!
# ASCII characters in lower case

The table of lower-case letters begins with the ASCII letters and goes on behind ASCII, so an ASCII
character is changed only if it is a capital letter (`lowercaseChar_of_ascii`). An ASCII text in lower
case is that of its characters (`lowercase_of_ascii`), and an ASCII character stays to be seen in the
lower case of any text around it (`toLower_mem_lowercase`).
-/

namespace PubList

namespace Unicode

/-- The capital letters of ASCII, the first run of the table. -/
def asciiRun : LetterRun := ⟨⟨0x41, 0x5A, 1⟩, 0x61⟩

/-- The second run of the table, behind ASCII. -/
def latinRun : LetterRun := ⟨⟨0xC0, 0xD6, 1⟩, 0xE0⟩

-- The table is one long text, of which only the start is looked at.
set_option maxRecDepth 10000 in
theorem lowercaseTable_eq :
    ∃ rest, lowercaseRuns.lowercaseTable = String.ofList
      ('4' :: '1' :: '-' :: '5' :: 'A' :: ':' :: '6' :: '1' :: ' ' ::
        'C' :: '0' :: '-' :: 'D' :: '6' :: ':' :: 'E' :: '0' :: ' ' :: rest) :=
  ⟨_, rfl⟩

theorem lowercaseRuns_eq : ∃ runs, lowercaseRuns = asciiRun :: latinRun :: runs := by
  obtain ⟨rest, htable⟩ := lowercaseTable_eq
  rw [lowercaseRuns, tableWords, htable, String.toList_ofList]
  exact ⟨_, rfl⟩

/-- The lower case of an ASCII character is that of ASCII. -/
theorem lowercaseChar_of_ascii {c : Char} (h : c.toNat < 128) : lowercaseChar c = c.toLower := by
  obtain ⟨runs, hruns⟩ := lowercaseRuns_eq
  have hstart : lowercasePoint c.toNat lowercaseRuns =
      lowercasePoint c.toNat [asciiRun, latinRun] := by
    have hlast : ¬latinRun.last < c.toNat := by
      show ¬0xD6 < c.toNat
      omega
    rw [hruns]
    simp only [lowercasePoint, if_neg hlast]
  have hall : ∀ n < 128, Char.ofNat (lowercasePoint n [asciiRun, latinRun]) =
      (Char.ofNat n).toLower := by decide
  rw [lowercaseChar, hstart, hall _ h, Char.ofNat_toNat]

end Unicode

namespace Text

open Unicode

/-- The lower case of an ASCII character does not depend on what stands around it. -/
theorem lowercaseAfter_cons_of_ascii {c : Char} (h : c.toNat < 128) (before t : Text) :
    lowercaseAfter before (c :: t) = c.toLower :: lowercaseAfter (c :: before) t := by
  have hsigma : c ≠ 'Σ' := by
    rintro rfl
    exact absurd h (by decide)
  have hdotted : c ≠ 'İ' := by
    rintro rfl
    exact absurd h (by decide)
  rw [lowercaseAfter, if_neg hsigma, if_neg hdotted, lowercaseChar_of_ascii h, List.singleton_append]

/-- An ASCII text in lower case. -/
theorem lowercase_of_ascii {t : Text} (h : ∀ c ∈ t, c.toNat < 128) :
    lowercase t = t.map Char.toLower := by
  rw [lowercase]
  generalize ([] : Text) = before
  induction t generalizing before with
  | nil => rfl
  | cons c t ih =>
    rw [List.forall_mem_cons] at h
    rw [lowercaseAfter_cons_of_ascii h.1, ih h.2, List.map_cons]

/-- An ASCII text without blanks and case. -/
theorem normalize_of_ascii {t : Text} (h : ∀ c ∈ trim t, c.toNat < 128) :
    normalize t = (trim t).map Char.toLower :=
  lowercase_of_ascii h

/-- An ASCII character of a text is found in the text in lower case. -/
theorem toLower_mem_lowercase {c : Char} {t : Text} (hc : c ∈ t) (h : c.toNat < 128) :
    c.toLower ∈ lowercase t := by
  rw [lowercase]
  generalize ([] : Text) = before
  induction t generalizing before with
  | nil => cases hc
  | cons d t ih =>
    rcases List.mem_cons.1 hc with rfl | hc
    · rw [lowercaseAfter_cons_of_ascii h]
      exact List.mem_cons_self
    · rw [lowercaseAfter]
      exact List.mem_append_right _ (ih hc _)

end Text

end PubList
