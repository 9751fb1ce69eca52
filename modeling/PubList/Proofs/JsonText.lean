import Mathlib.Tactic.SplitIfs
import PubList.Json.Reader

/-!
# JSON texts that are written

A text in quotes is read as the text, whatever characters it has (`tokens?_quote`). A map is written as
its members between commas, each of them a quoted name, a colon and a value, and is read as its members
in their order (`read?_writeMap`). The values here are texts and flags.
-/

namespace PubList.Json

open Data (quoteChar hexDigit quote boolText enclose)

/-! ## Quoted texts -/

/-- An escape of a character beyond the pairs stands for the character, also in front of another one. -/
theorem readQuoted?_unit {a b c d : Char} {n : Nat} (h : unit? a b c d = some n)
    (hhigh : isHigh n = false) (hlow : isLow n = false) (t : Text) :
    readQuoted? ('\\' :: 'u' :: a :: b :: c :: d :: t) =
      prepend (Char.ofNat n) 6 (readQuoted? t) := by
  conv => lhs; unfold readQuoted?
  split
  case h_5 hnumber heq =>
    obtain ⟨-, htail⟩ := List.cons.inj heq
    obtain ⟨rfl, rfl⟩ := List.cons.inj htail
    exact absurd rfl (hnumber _ _ _ _ _ rfl)
  case h_6 hescape heq =>
    obtain ⟨rfl, rfl⟩ := List.cons.inj heq
    exact absurd rfl (hescape _ _ rfl)
  all_goals simp_all

/-- A backslash in front of a character that it stands with. -/
theorem readQuoted?_escaped {c d : Char} (h : escaped? c = some d) (t : Text) :
    readQuoted? ('\\' :: c :: t) = prepend d 2 (readQuoted? t) := by
  have hu : c ≠ 'u' := by
    rintro rfl
    cases h
  conv => lhs; unfold readQuoted?
  split
  case h_6 hescape heq =>
    obtain ⟨rfl, rfl⟩ := List.cons.inj heq
    exact absurd rfl (hescape _ _ rfl)
  all_goals simp_all

/-- Any other character stands for itself. -/
theorem readQuoted?_cons {c : Char} (hquote : c ≠ '"') (hbackslash : c ≠ '\\')
    (hcontrol : ¬c.toNat < 32) (t : Text) :
    readQuoted? (c :: t) = prepend c 1 (readQuoted? t) := by
  conv => lhs; unfold readQuoted?
  split
  case h_6 heq =>
    obtain ⟨rfl, rfl⟩ := List.cons.inj heq
    rw [if_neg (by simp [hbackslash, hcontrol])]
  all_goals simp_all

/-- A control character is escaped by its number. -/
theorem unit?_hexDigit {n : Nat} (h : n < 32) :
    unit? '0' '0' (hexDigit (n / 16)) (hexDigit (n % 16)) = some n := by
  revert n
  decide

/-- A character is read as it is written. -/
theorem readQuoted?_quoteChar (c : Char) (t : Text) :
    readQuoted? (quoteChar c ++ t) = prepend c (quoteChar c).length (readQuoted? t) := by
  unfold quoteChar
  split_ifs with hquote hbackslash hbreak htab hreturn hbackspace hfeed hcontrol
  · exact hquote ▸ readQuoted?_escaped rfl t
  · exact hbackslash ▸ readQuoted?_escaped rfl t
  · exact hbreak ▸ readQuoted?_escaped rfl t
  · exact htab ▸ readQuoted?_escaped rfl t
  · exact hreturn ▸ readQuoted?_escaped rfl t
  · have hc : c = Char.ofNat 8 := by rw [← hbackspace, Char.ofNat_toNat]
    exact hc ▸ readQuoted?_escaped rfl t
  · have hc : c = Char.ofNat 12 := by rw [← hfeed, Char.ofNat_toNat]
    exact hc ▸ readQuoted?_escaped rfl t
  · have hread := readQuoted?_unit (unit?_hexDigit hcontrol) (by simp [isHigh]; omega)
      (by simp [isLow]; omega) t
    rw [Char.ofNat_toNat] at hread
    exact hread
  · exact readQuoted?_cons hquote hbackslash hcontrol t

/-- A text in quotes is read up to the closing quote. -/
theorem readQuoted?_quote (s rest : Text) :
    readQuoted? (s.flatMap quoteChar ++ '"' :: rest) =
      some (s, (s.flatMap quoteChar).length + 1) := by
  induction s with
  | nil => simp [readQuoted?]
  | cons c s ih =>
    rw [List.flatMap_cons, List.append_assoc, readQuoted?_quoteChar, ih]
    simp [prepend]
    omega

/-! ## Tokens -/

theorem tokens?_mark {c : Char} {token : Token} (hblank : isBlank c = false)
    (h : mark? c = some token) (t : Text) : tokens? (c :: t) = (tokens? t).map (token :: ·) := by
  rw [tokens?, hblank, if_neg Bool.false_ne_true, readToken?, h]
  simp

/-- A text in quotes is one token. -/
theorem tokens?_quote (s rest : Text) :
    tokens? (quote s ++ rest) = (tokens? rest).map (.text s :: ·) := by
  have htext : quote s ++ rest = '"' :: (s.flatMap quoteChar ++ '"' :: rest) := by simp [quote]
  have htoken : readToken? '"' (s.flatMap quoteChar ++ '"' :: rest) =
      some (.text s, (s.flatMap quoteChar).length + 1) := by
    have hmark : mark? '"' = none := by decide
    rw [readToken?, hmark, if_pos rfl, readQuoted?_quote]
    rfl
  have hdrop : (s.flatMap quoteChar ++ '"' :: rest).drop ((s.flatMap quoteChar).length + 1) = rest := by
    rw [List.drop_append]
    simp
  rw [htext, tokens?, if_neg (by decide), htoken]
  simp only [hdrop]

/-- A word for a flag is one token, if no letter follows. -/
theorem tokens?_boolText (b : Bool) {rest : Text} (h : ∀ c ∈ rest.head?, c.isAlpha = false) :
    tokens? (boolText b ++ rest) = (tokens? rest).map (.plain (.bool b) :: ·) := by
  have hletters {word : Text} (hword : ∀ c ∈ word, c.isAlpha = true) :
      (word ++ rest).takeWhile Char.isAlpha = word := by
    rw [List.takeWhile_append_of_pos hword]
    cases rest with
    | nil => simp
    | cons c rest => simp [h c rfl]
  have htoken {c : Char} {word : Text} (hword : ∀ c ∈ word, c.isAlpha = true)
      (hmark : mark? c = none) (hquote : c ≠ '"') (hnumber : (c = '-' || c.isDigit) = false)
      (hblank : isBlank c = false) (hvalue : word? (c :: word) = some (.bool b)) :
      tokens? (c :: word ++ rest) = (tokens? rest).map (.plain (.bool b) :: ·) := by
    have hread : readToken? c (word ++ rest) = some (.plain (.bool b), word.length) := by
      rw [readToken?, hmark, if_neg hquote, hnumber, if_neg Bool.false_ne_true]
      simp only [hletters hword, hvalue, Option.map_some]
    rw [List.cons_append, tokens?, hblank, if_neg Bool.false_ne_true, hread]
    simp
  cases b with
  | false => exact htoken (by decide) rfl (by decide) (by decide) (by decide) rfl
  | true => exact htoken (by decide) rfl (by decide) (by decide) (by decide) rfl

/-- The token of a text or of a flag. -/
def simpleToken? : Data → Option Token
  | .text t => some (.text t)
  | .bool b => some (.plain (.bool b))
  | _ => none

/-- A text or a flag is one token, if no letter follows. -/
theorem tokens?_compact {value : Data} {token : Token} (h : simpleToken? value = some token)
    {rest : Text} (hrest : ∀ c ∈ rest.head?, c.isAlpha = false) :
    tokens? (value.compact ++ rest) = (tokens? rest).map (token :: ·) := by
  cases value with
  | text t =>
    cases h
    rw [Data.compact]
    exact tokens?_quote t rest
  | bool b =>
    cases h
    rw [Data.compact]
    exact tokens?_boolText b hrest
  | null | number | list | map => cases h

/-! ## Maps -/

/-- The text of a member of a map. -/
def writeMember (member : Text × Data) : Text := quote member.1 ++ ':' :: member.2.compact

/-- The text of a map with its members in their order. -/
def writeMap (members : List (Text × Data)) : Text :=
  enclose '\x7b' (members.map writeMember) '\x7d'

namespace Machine

/-- Takes the tokens of a text. -/
def run? (m : Machine) (t : Text) : Option Machine := (tokens? t).bind (·.foldlM step m)

/-- What begins with a token is taken by a step. -/
theorem run?_of_token (m : Machine) {t rest : Text} {token : Token}
    (h : tokens? t = (tokens? rest).map (token :: ·)) :
    m.run? t = (m.step token).bind (·.run? rest) := by
  unfold run?
  rw [h]
  cases tokens? rest with
  | none => cases m.step token <;> rfl
  | some tokens => rfl

/-- A member is put on the members that have been read. -/
theorem run?_member {expects : Expectation} (hexpects : expects = .firstName ∨ expects = .name)
    (members : List (Text × Data)) (stack : List Open) {member : Text × Data}
    (hmember : (simpleToken? member.2).isSome) {rest : Text}
    (hrest : ∀ c ∈ rest.head?, c.isAlpha = false) :
    run? ⟨.map members :: stack, expects⟩ (writeMember member ++ rest) =
      run? ⟨.map (member :: members) :: stack, .comma⟩ rest := by
  obtain ⟨name, value⟩ := member
  obtain ⟨token, htoken⟩ := Option.isSome_iff_exists.1 hmember
  have hname : step ⟨.map members :: stack, expects⟩ (.text name) =
      some ⟨.map members :: stack, .colon name⟩ := by
    rcases hexpects with rfl | rfl <;> rfl
  have hvalue : step ⟨.member name :: .map members :: stack, .value⟩ token =
      some ⟨.map ((name, value) :: members) :: stack, .comma⟩ := by
    cases value with
    | text | bool =>
      cases htoken
      rfl
    | null | number | list | map => cases htoken
  rw [writeMember, List.append_assoc, List.cons_append, run?_of_token _ (tokens?_quote name _), hname,
    Option.bind_some, run?_of_token _ (tokens?_mark (by decide) rfl _)]
  show (run? ⟨.member name :: .map members :: stack, .value⟩ _) = _
  rw [run?_of_token _ (tokens?_compact htoken hrest), hvalue, Option.bind_some]

/-- Members with commas between them are put on the members that have been read. -/
theorem run?_members {expects : Expectation} (hexpects : expects = .firstName ∨ expects = .name)
    (done : List (Text × Data)) (stack : List Open) {members : List (Text × Data)}
    (hnonempty : members ≠ []) (hmembers : ∀ member ∈ members, (simpleToken? member.2).isSome)
    {rest : Text} (hrest : ∀ c ∈ rest.head?, c.isAlpha = false) :
    run? ⟨.map done :: stack, expects⟩
        (List.intercalate [','] (members.map writeMember) ++ rest) =
      run? ⟨.map (members.reverse ++ done) :: stack, .comma⟩ rest := by
  induction members generalizing done expects with
  | nil => exact absurd rfl hnonempty
  | cons member members ih =>
    rw [List.forall_mem_cons] at hmembers
    cases members with
    | nil =>
      rw [List.map_cons, List.map_nil, List.intercalate_singleton]
      exact run?_member hexpects done stack hmembers.1 hrest
    | cons next members =>
      rw [List.map_cons, List.map_cons, List.intercalate_cons_cons, ← List.map_cons,
        List.append_assoc, List.append_assoc, List.singleton_append,
        run?_member hexpects done stack hmembers.1 (by simp),
        run?_of_token _ (tokens?_mark (by decide) rfl _)]
      show run? ⟨.map (member :: done) :: stack, .name⟩ _ = _
      rw [ih (.inr rfl) (member :: done) (by simp) hmembers.2]
      simp

end Machine

theorem read?_eq_run? (t : Text) : read? t = (Machine.start.run? t).bind Machine.result? := by
  unfold read? Machine.run?
  cases tokens? t <;> rfl

/-- **A map is read as it is written.** -/
theorem read?_writeMap {members : List (Text × Data)}
    (hmembers : ∀ member ∈ members, (simpleToken? member.2).isSome) :
    read? (writeMap members) = some (.map members) := by
  have hopen (t : Text) : Machine.start.run? ('\x7b' :: t) =
      Machine.run? ⟨[.map []], .firstName⟩ t := by
    rw [Machine.run?_of_token _ (tokens?_mark (by decide) rfl t)]
    rfl
  have hclose : tokens? ['\x7d'] = some [.closeMap] := by
    rw [tokens?_mark (by decide) rfl, tokens?]
    rfl
  have hend : ∀ c ∈ ['\x7d'].head?, c.isAlpha = false := by
    rintro c ⟨⟩
    rfl
  rw [read?_eq_run?, writeMap, enclose, List.cons_append, hopen]
  by_cases hnonempty : members = []
  · subst hnonempty
    rw [List.map_nil, List.intercalate_nil, List.nil_append, Machine.run?, hclose]
    rfl
  · rw [Machine.run?_members (.inl rfl) [] [] hnonempty hmembers hend, Machine.run?, hclose,
      List.append_nil]
    show some (Data.map members.reverse.reverse) = _
    rw [List.reverse_reverse]

end PubList.Json
