import Mathlib.Data.List.Basic
import PubList.Proofs.Filling
import PubList.Proofs.Inert

/-!
# The two placeholders for the key of an entry

`@entrykey@` is filled before the conditionals are resolved, `@key@` after them together with the
fields. In a template without conditionals both put in the same text, as long as the later passes
find nothing in the key (`PlainKey`). They read it in the one case and not in the other: a key that
holds the placeholder of a field is shown as it is by `@key@` and filled in by `@entrykey@`
(`entryKey_ne_key_of_placeholder`).

A `Line` is such a template, cut into its parts. `Line.write key value` is the line with `key` for
the key and `value name` for each field, so that every pass leads from one `write` to another
(`substitute_write`). It is no `Fragment`: the values that are put into a fragment have no `@`, and a
key is any text.
-/

namespace PubList.Template

open Text (IsWord isWordChar NoHead)

/-! ## Lines -/

/-- A part of an entry template. -/
inductive LinePart where
  | literal (t : Text)
  | field (name : Text)
  /-- A literal and the placeholder for the key behind it. -/
  | keyed (t : Text)
  deriving DecidableEq, Repr

/-- A literal of a line: it has no `@`, it has a character that no word has, and it does not begin
like a mark of a conditional. -/
structure IsLineLiteral (t : Text) : Prop where
  at_not_mem : '@' ∉ t
  break_mem : ∃ c ∈ t, isWordChar c = false
  noHead : NoHead Fragment.markHeads t

instance (t : Text) : Decidable (IsLineLiteral t) :=
  decidable_of_iff ('@' ∉ t ∧ (∃ c ∈ t, isWordChar c = false) ∧ NoHead Fragment.markHeads t)
    ⟨fun ⟨hat, hbreak, hhead⟩ => ⟨hat, hbreak, hhead⟩,
      fun ⟨hat, hbreak, hhead⟩ => ⟨hat, hbreak, hhead⟩⟩

namespace LinePart

/-- The only placeholder for the early pass is the one for the key. -/
def WellFormed : LinePart → Prop
  | literal t => IsLineLiteral t
  | field name => IsWord name ∧ name ≠ "entrykey".toList
  | keyed t => IsLineLiteral t

instance : (p : LinePart) → Decidable p.WellFormed
  | literal t => inferInstanceAs (Decidable (IsLineLiteral t))
  | field name => inferInstanceAs (Decidable (IsWord name ∧ name ≠ "entrykey".toList))
  | keyed t => inferInstanceAs (Decidable (IsLineLiteral t))

/-- A part with texts for the key and for the fields. -/
def write (key : Text) (value : Text → Text) : LinePart → Text
  | literal t => t
  | field name => value name
  | keyed t => t ++ key

end LinePart

/-- An entry template without conditionals. -/
abbrev Line := List LinePart

namespace Line

/-- A line with texts for the key and for the fields. -/
def write (key : Text) (value : Text → Text) (line : Line) : Text :=
  line.flatMap (LinePart.write key value)

@[simp] theorem write_nil (key : Text) (value : Text → Text) : write key value [] = [] := rfl

@[simp] theorem write_literal (key : Text) (value : Text → Text) (t : Text) (line : Line) :
    write key value (.literal t :: line) = t ++ write key value line := rfl

@[simp] theorem write_field (key : Text) (value : Text → Text) (name : Text) (line : Line) :
    write key value (.field name :: line) = value name ++ write key value line := rfl

@[simp] theorem write_keyed (key : Text) (value : Text → Text) (t : Text) (line : Line) :
    write key value (.keyed t :: line) = t ++ (key ++ write key value line) := by
  simp [write, LinePart.write]

/-- A line as it is written in a template, with the given name in the placeholders for the key. -/
def text (keyName : Text) (line : Line) : Text := line.write (placeholder keyName) placeholder

theorem write_congr {value value' : Text → Text} {line : Line} (key : Text)
    (h : ∀ name, .field name ∈ line → value name = value' name) :
    line.write key value = line.write key value' := by
  refine List.flatMap_congr fun p hp => ?_
  cases p with
  | field name => exact h name hp
  | literal | keyed => rfl

/-! ## A pass over a line -/

/-- In front of a line, an `@` opens no placeholder. -/
theorem wordBeforeAt?_write {line : Line} (hline : ∀ p ∈ line, p.WellFormed) (key : Text) :
    wordBeforeAt? (line.write key placeholder) = none := by
  cases line with
  | nil => exact wordBeforeAt?_nil
  | cons p line =>
    have hp : p.WellFormed := hline p List.mem_cons_self
    cases p with
    | literal t => exact wordBeforeAt?_append_of_break hp.at_not_mem hp.break_mem _
    | field name => exact wordBeforeAt?_at _
    | keyed t =>
      rw [write_keyed]
      exact wordBeforeAt?_append_of_break hp.at_not_mem hp.break_mem _

/-- **A pass over a line.** What a pass makes of the key where no placeholder runs on behind it, it
makes of every key in a line. -/
theorem substitute_write {lookup : Text → Option Text} {key key' : Text} {line : Line}
    (hline : ∀ p ∈ line, p.WellFormed)
    (hkey : ∀ t, wordBeforeAt? t = none →
      substitute lookup (key ++ t) = key' ++ substitute lookup t) :
    substitute lookup (line.write key placeholder) = line.write key' (shown lookup) := by
  induction line with
  | nil => exact substitute_nil lookup
  | cons p line ih =>
    rw [List.forall_mem_cons] at hline
    obtain ⟨hp, hrest⟩ := hline
    have hbehind := wordBeforeAt?_write hrest key
    cases p with
    | literal t =>
      rw [write_literal, write_literal, substitute_append_of_not_mem hp.at_not_mem, ih hrest]
    | field name =>
      rw [write_field, write_field, (Fragment.fills_placeholder hp.1).carries _
        (closed_of_eq_none hbehind), ih hrest]
    | keyed t =>
      rw [write_keyed, write_keyed, substitute_append_of_not_mem hp.at_not_mem, hkey _ hbehind,
        ih hrest]

/-! ## Marks of conditionals in a line -/

theorem not_pair_placeholder {z : Char} (hz : z ∈ Fragment.markHeads) {name : Text}
    (hname : IsWord name) : ¬ ['@', z] <:+: placeholder name := by
  have hall : ∀ z ∈ Fragment.markHeads, '@' ≠ z ∧ isWordChar z = false := by decide
  obtain ⟨hat, hword⟩ := hall z hz
  have hmem : z ∉ placeholder name := by
    simp [placeholder, Ne.symm hat, not_mem_of_isWord hname hword]
  exact fun h => hmem (h.subset (by simp))

theorem not_pair_literal_append {z : Char} {t s : Text} (ht : IsLineLiteral t)
    (hs : ¬ ['@', z] <:+: s) : ¬ ['@', z] <:+: t ++ s := by
  intro h
  rcases Text.pair_infix_append h with h | h | ⟨hat, -⟩
  · exact ht.at_not_mem (h.subset List.mem_cons_self)
  · exact hs h
  · exact ht.at_not_mem hat

/-- A line does not begin like a mark of a conditional. -/
theorem noHead_write {line : Line} (hline : ∀ p ∈ line, p.WellFormed) (key : Text) :
    NoHead Fragment.markHeads (line.write key placeholder) := by
  have hliteral {t : Text} (ht : IsLineLiteral t) (rest : Text) :
      NoHead Fragment.markHeads (t ++ rest) := by
    obtain ⟨c, hc, -⟩ := ht.break_mem
    exact ht.noHead.append_of_ne_nil (List.ne_nil_of_mem hc) rest
  cases line with
  | nil => exact Text.noHead_nil _
  | cons p line =>
    have hp : p.WellFormed := hline p List.mem_cons_self
    cases p with
    | literal t => exact hliteral hp _
    | field name => exact Text.noHead_cons (by decide) _
    | keyed t =>
      rw [write_keyed]
      exact hliteral hp _

/-- A line has no mark of a conditional that the key does not have. -/
theorem not_pair_write {z : Char} (hz : z ∈ Fragment.markHeads) {key : Text}
    (hkey : ¬ ['@', z] <:+: key) {line : Line} (hline : ∀ p ∈ line, p.WellFormed) :
    ¬ ['@', z] <:+: line.write key placeholder := by
  induction line with
  | nil => simp
  | cons p line ih =>
    rw [List.forall_mem_cons] at hline
    obtain ⟨hp, hrest⟩ := hline
    have hhead := noHead_write hrest key z hz
    have hbehind := ih hrest
    cases p with
    | literal t => exact not_pair_literal_append hp hbehind
    | field name => exact Text.not_pair_append (not_pair_placeholder hz hp.1) hbehind hhead
    | keyed t =>
      rw [write_keyed]
      exact not_pair_literal_append hp (Text.not_pair_append hkey hbehind hhead)

/-- A conditional takes an opening and a closing mark: without one of them in the key, there is none
in a line. -/
theorem unread_write {key : Text} (hkey : ¬ ['@', '?'] <:+: key ∨ ¬ ['@', ';'] <:+: key)
    {line : Line} (hline : ∀ p ∈ line, p.WellFormed) : Unread (line.write key placeholder) := by
  intro u v huv
  rw [Option.eq_none_iff_forall_ne_some]
  rintro ⟨c, rest⟩ hread
  have htext : '@' :: '?' :: v = c.text ++ rest := Conditional.text_append_of_read? hread
  have hblock : c.text <:+: line.write key placeholder := ⟨u, rest, by rw [huv, htext]; simp⟩
  have hopens : ['@', '?'] <:+: c.text := by
    rw [Conditional.text, Conditional.head]
    exact ⟨[], _, by simp [Conditional.opener]; rfl⟩
  have hcloses : ['@', ';'] <:+: c.text := by
    rw [Conditional.text]
    exact ⟨c.head ++ c.body, c.field ++ ['@'], by simp [Conditional.closer]⟩
  rcases hkey with hkey | hkey
  · exact not_pair_write (by decide) hkey hline (hopens.trans hblock)
  · exact not_pair_write (by decide) hkey hline (hcloses.trans hblock)

end Line

/-! ## Keys in which nothing is found -/

/-- A key in which the passes behind the early one find nothing: no placeholder of a field that the
entry has, be it with an `@` behind the key, and not both marks of a conditional. -/
structure PlainKey (e : Entry) : Prop where
  placeholder : ∀ v, '@' :: v <:+ e.key → Closed e.get? (v ++ ['@'])
  conditional : ¬ ['@', '?'] <:+: e.key ∨ ¬ ['@', ';'] <:+: e.key

/-- A plain key stays, unless a placeholder runs on behind it. -/
theorem PlainKey.substitute_append {e : Entry} (he : PlainKey e) {t : Text}
    (ht : wordBeforeAt? t = none) : substitute e.get? (e.key ++ t) = e.key ++ substitute e.get? t := by
  apply substitute_append_of_closed
  intro u v huv name hname
  have hv : Closed e.get? (v ++ ['@']) := he.placeholder v ⟨u, huv.symm⟩
  obtain ⟨hword, rest, heq⟩ := wordBeforeAt?_eq_some hname
  rcases List.append_eq_append_iff.1 heq with ⟨w, rfl, hw⟩ | ⟨w, rfl, hw⟩
  · -- The name ends behind the key: what runs on there is a word, if it is not empty.
    rcases eq_or_ne w [] with rfl | hne
    · exact hv _ (wordBeforeAt?_iff.2 ⟨hword, [], by simp⟩)
    · have hw' : IsWord w := ⟨hne, fun c hc => hword.2 c (List.mem_append_right v hc)⟩
      rw [wordBeforeAt?_iff.2 ⟨hw', rest, hw⟩] at ht
      cases ht
  · -- The name ends in the key, and the `@` behind it is there or begins `t`.
    cases w with
    | nil => exact hv _ (wordBeforeAt?_iff.2 ⟨hword, [], by simp⟩)
    | cons a w =>
      obtain ⟨rfl, -⟩ := List.cons.inj hw
      exact hv _ (wordBeforeAt?_iff.2 ⟨hword, w ++ ['@'], by simp⟩)

/-! ## Rendering -/

theorem shown_entryKeyValue (e : Entry) {name : Text} (hname : name ≠ "entrykey".toList) :
    shown (entryKeyValue e) name = placeholder name := by
  rw [shown, entryKeyValue, if_neg hname, Option.getD_none]

/-- The early pass over a line. -/
theorem substitute_entryKeyValue_text (e : Entry) {line : Line} (hline : ∀ p ∈ line, p.WellFormed)
    {keyName key : Text}
    (hkey : ∀ t, wordBeforeAt? t = none → substitute (entryKeyValue e) (placeholder keyName ++ t) =
      key ++ substitute (entryKeyValue e) t) :
    substitute (entryKeyValue e) (line.text keyName) = line.write key placeholder := by
  rw [Line.text, Line.substitute_write hline hkey]
  exact Line.write_congr key fun name hname => shown_entryKeyValue e (hline _ hname).2

/-- The early pass fills in `@entrykey@`. -/
theorem substitute_entryKey_text (e : Entry) {line : Line} (hline : ∀ p ∈ line, p.WellFormed) :
    substitute (entryKeyValue e) (line.text "entrykey".toList) = line.write e.key placeholder :=
  substitute_entryKeyValue_text e hline fun t _ =>
    substitute_placeholder (entryKeyValue e) (by decide) rfl t

/-- The early pass leaves `@key@`. -/
theorem substitute_key_text (e : Entry) {line : Line} (hline : ∀ p ∈ line, p.WellFormed) :
    substitute (entryKeyValue e) (line.text "key".toList) = line.text "key".toList :=
  substitute_entryKeyValue_text e hline fun t ht =>
    substitute_mark (by decide) (fun _ => rfl) (closed_of_eq_none ht)

/-- `@key@` shows every key as it is. -/
theorem renderEntry_key (e : Entry) {line : Line} (hline : ∀ p ∈ line, p.WellFormed) :
    renderEntry e (line.text "key".toList) = line.write e.key (shown e.get?) := by
  have hname : IsWord "key".toList := by decide
  have hunread : Unread (line.text "key".toList) :=
    Line.unread_write (.inl (Line.not_pair_placeholder (by decide) hname)) hline
  have hlate : substitute e.get? (line.text "key".toList) = line.write e.key (shown e.get?) :=
    Line.substitute_write hline fun t _ => substitute_placeholder e.get? hname (e.get?_key) t
  rw [renderEntry, substitute_key_text e hline, resolve, resolveLevels_eq_self e maxDepth hunread,
    hlate]

/-- `@entrykey@` shows a plain key as it is. -/
theorem renderEntry_entryKey {e : Entry} (he : PlainKey e) {line : Line}
    (hline : ∀ p ∈ line, p.WellFormed) :
    renderEntry e (line.text "entrykey".toList) = line.write e.key (shown e.get?) := by
  have hunread : Unread (line.write e.key placeholder) := Line.unread_write he.conditional hline
  have hlate : substitute e.get? (line.write e.key placeholder) =
      line.write e.key (shown e.get?) :=
    Line.substitute_write hline fun _ => he.substitute_append
  rw [renderEntry, substitute_entryKey_text e hline, resolve,
    resolveLevels_eq_self e maxDepth hunread, hlate]

/-- **The two placeholders for the key.** For an entry with a plain key, a line is rendered to the same
text with `@entrykey@` as with `@key@`: the key stands in it as it is. -/
theorem entryKey_eq_key {e : Entry} (he : PlainKey e) {line : Line}
    (hline : ∀ p ∈ line, p.WellFormed) :
    renderEntry e (line.text "entrykey".toList) = renderEntry e (line.text "key".toList) ∧
      renderEntry e (line.text "key".toList) = line.write e.key (shown e.get?) := by
  have hkey := renderEntry_key e hline
  exact ⟨(renderEntry_entryKey he hline).trans hkey.symm, hkey⟩

/-- An address is a plain key: the `@` in it opens no placeholder of a field. -/
theorem entryKey_eq_key_of_address :
    let e : Entry := ⟨"doi:10.1000/x?@host".toList, [("title".toList, "T".toList)]⟩
    let line : Line := [.keyed "* ".toList, .field "title".toList, .keyed ", ".toList]
    PlainKey e ∧ (∀ p ∈ line, p.WellFormed) ∧
      renderEntry e (line.text "entrykey".toList) = renderEntry e (line.text "key".toList) ∧
      renderEntry e (line.text "key".toList) =
        "* doi:10.1000/x?@hostT, doi:10.1000/x?@host".toList := by
  intro e line
  have hkey : PlainKey e := by
    refine ⟨fun v hv name hname => ?_, .inl (Text.contains_eq_false_iff.1 (by decide))⟩
    obtain rfl : v = "host".toList := by simpa [e, List.suffix_cons_iff] using hv
    obtain rfl : "host".toList = name := ((wordBeforeAt?_append_at (by decide)).1 hname).2
    decide
  have hline : ∀ p ∈ line, p.WellFormed := by decide
  exact ⟨hkey, hline, entryKey_eq_key hkey hline⟩

/-- A key that holds the placeholder of a field is filled in by `@entrykey@`, and shown as it is by
`@key@`. -/
theorem entryKey_ne_key_of_placeholder :
    let e : Entry := ⟨"@title@".toList, [("title".toList, "T".toList)]⟩
    let line : Line := [.keyed "-".toList]
    (∀ p ∈ line, p.WellFormed) ∧ renderEntry e (line.text "entrykey".toList) = "-T".toList ∧
      renderEntry e (line.text "key".toList) = "-@title@".toList := by
  intro e line
  have hline : ∀ p ∈ line, p.WellFormed := by decide
  refine ⟨hline, ?_, renderEntry_key e hline⟩
  have hunread : Unread (line.write e.key placeholder) :=
    Line.unread_write (.inl (Text.contains_eq_false_iff.1 (by decide))) hline
  -- Behind the early pass, the placeholder in the key is one of the template.
  have hlate : substitute e.get? (line.write e.key placeholder) = "-T".toList := by
    have hwritten : line.write e.key placeholder =
        "-".toList ++ (placeholder "title".toList ++ []) := rfl
    have hname : IsWord "title".toList := by decide
    have hvalue : e.get? "title".toList = some "T".toList := rfl
    rw [hwritten, substitute_append_of_not_mem (by decide), substitute_placeholder e.get? hname hvalue,
      substitute_nil]
    rfl
  rw [renderEntry, substitute_entryKey_text e hline, resolve,
    resolveLevels_eq_self e maxDepth hunread, hlate]

end PubList.Template
