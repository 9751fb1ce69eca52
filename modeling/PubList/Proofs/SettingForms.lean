import PubList.Config.Reader
import PubList.Proofs.JsonText
import PubList.Proofs.OptionItems
import PubList.Proofs.Search
import PubList.Proofs.Trimming

/-!
# Settings in two forms

A setting is written as an item of an option string or as a member of a document. Either form gives the
field of the setting the value that its text denotes (`applyItem_item`, `setMember?_member`), so a list of
settings for different fields makes the same configuration in both, whatever the order on either side
(`read_eq_ofOptions`).
-/

namespace PubList.Config

/-- A field and the text of a value for it. -/
structure Setting where
  field : Field
  text : Text
  deriving DecidableEq, Repr

namespace Setting

/-- The setting as an item of an option string. -/
def item (s : Setting) : Text := s.field.name ++ '=' :: s.text

/-- The setting as a member of a document: the flag is true or false, any other value is a text. -/
def member (s : Setting) : Text × Data :=
  (s.field.name, match s.field with
    | .useGroup => .bool (s.text = "true".toList)
    | _ => .text s.text)

/-- The text denotes a value of the field. The flag is written as in a document. -/
structure IsAccepted (s : Setting) : Prop where
  readable : ∃ v, s.field.read s.text = .ok v
  flag : s.field = .useGroup → s.text = "true".toList ∨ s.text = "false".toList

end Setting

/-- The configuration `c'` is `c` with the settings: each of their fields has the value that the text of
its setting denotes, and the other fields are those of `c`. -/
structure Shows (c : Config) (settings : List Setting) (c' : Config) : Prop where
  set : ∀ s ∈ settings, s.field.read s.text = .ok (c'.value s.field)
  kept : ∀ field ∉ settings.map Setting.field, c'.value field = c.value field

/-- Settings show in one configuration only. -/
theorem Shows.unique {c c₁ c₂ : Config} {settings : List Setting} (h₁ : c.Shows settings c₁)
    (h₂ : c.Shows settings c₂) : c₁ = c₂ := by
  refine ext_value fun field => ?_
  by_cases hfield : field ∈ settings.map Setting.field
  · obtain ⟨s, hs, rfl⟩ := List.mem_map.1 hfield
    exact Except.ok.inj ((h₁.set s hs).symm.trans (h₂.set s hs))
  · rw [h₁.kept field hfield, h₂.kept field hfield]

/-- The order of the settings does not matter. -/
theorem Shows.congr {c c' : Config} {settings settings' : List Setting} (h : c.Shows settings c')
    (hperm : settings.Perm settings') : c.Shows settings' c' :=
  ⟨fun s hs => h.set s (hperm.mem_iff.2 hs),
    fun field hfield => h.kept field fun hmem => hfield ((hperm.map Setting.field).mem_iff.1 hmem)⟩

theorem Shows.nil (c : Config) : c.Shows [] c := ⟨fun _ h => (nomatch h), fun _ _ => rfl⟩

/-- A setting in front shows too, if no other one is for its field. -/
theorem Shows.cons {c c' : Config} {s : Setting} {settings : List Setting} {v : s.field.Value}
    (hnew : s.field ∉ settings.map Setting.field) (hread : s.field.read s.text = .ok v)
    (h : (c.put s.field v).Shows settings c') : c.Shows (s :: settings) c' := by
  refine ⟨List.forall_mem_cons.2 ⟨?_, h.set⟩, fun field hfield => ?_⟩
  · rw [h.kept s.field hnew, value_put_self, hread]
  · rw [List.map_cons, List.mem_cons, not_or] at hfield
    rw [h.kept field hfield.2, value_put_of_ne c hfield.1]

/-! ## As items -/

/-- A text that denotes a value has no separator. -/
theorem not_mem_of_read {field : Field} {t : Text} {v : field.Value} (h : field.read t = .ok v)
    {c : Char} (hc : c = ';' ∨ c = ',') : c ∉ t := by
  intro hmem
  have hwords : ∀ word ∈ field.spellings, ';' ∉ word.1 ∧ ',' ∉ word.1 := by
    cases field <;> decide
  obtain ⟨hsemicolon, hcomma⟩ := hwords _ (Field.read_eq_ok_iff.1 h)
  rcases hc with rfl | rfl
  · exact hsemicolon (Text.toLower_mem_lowercase (Text.mem_trimWhere hmem (by decide)) (by decide))
  · exact hcomma (Text.toLower_mem_lowercase (Text.mem_trimWhere hmem (by decide)) (by decide))

theorem Field.normalize_name (field : Field) : Text.normalize field.name = field.name := by
  cases field <;> rw [Text.normalize_of_ascii (by decide)] <;> decide

theorem Field.name_ne_nil (field : Field) : field.name ≠ [] := by
  cases field <;> decide

/-- A name has no blank, no separator and no equals sign. -/
theorem Field.name_plain (field : Field) :
    ∀ c ∈ field.name, Text.isBlank c = false ∧ c ≠ '=' ∧ c ≠ ';' ∧ c ≠ ',' := by
  cases field <;> decide

/-- The blanks around an item do not matter: those in front of its name and behind its text. -/
theorem trim_item (s : Setting) :
    ∃ t, Text.trim s.item = s.field.name ++ '=' :: t ∧ Text.trim t = Text.trim s.text := by
  obtain ⟨field, text⟩ := s
  obtain ⟨t, u, rfl, hu, hlast⟩ := Text.exists_trimmed_end Text.isBlank text
  refine ⟨t, ?_, (Text.trimWhere_append_right hu t).symm⟩
  have hhead : ∀ c ∈ (field.name ++ '=' :: t).head?, Text.isBlank c = false := by
    intro c hc
    obtain ⟨d, rest, hname⟩ := List.exists_cons_of_ne_nil field.name_ne_nil
    rw [hname] at hc
    cases hc
    exact (field.name_plain c (hname ▸ List.mem_cons_self)).1
  have hend : ∀ c ∈ (field.name ++ '=' :: t).getLast?, Text.isBlank c = false := by
    intro c hc
    rw [List.getLast?_append, List.getLast?_cons, Option.some_or] at hc
    cases ht : t.getLast? with
    | none =>
      rw [ht] at hc
      cases hc
      decide
    | some d =>
      rw [ht] at hc
      cases hc
      exact hlast d ht
  have hitem : Setting.item ⟨field, t ++ u⟩ = (field.name ++ '=' :: t) ++ u := by
    simp [Setting.item]
  rw [hitem, Text.trim, Text.trimWhere_append_right hu, Text.trimWhere_of_ends hhead hend]

/-- A setting as an item gives its field its value. -/
theorem applyItem_item (c : Config) {s : Setting} {v : s.field.Value}
    (hread : s.field.read s.text = .ok v) :
    c.applyItem (Text.trim s.item) = .ok (c.put s.field v) := by
  obtain ⟨t, hitem, ht⟩ := trim_item s
  have hname : '=' ∉ s.field.name := fun h => (s.field.name_plain _ h).2.1 rfl
  have hsame : s.field.read t = .ok v := by
    rw [Field.read_eq_ok_iff] at hread ⊢
    rwa [Text.normalize, ht]
  rw [hitem]
  refine applyItem_eq_ok_iff.2 ⟨s.field, t, v, textFor?_eq_some_iff.2 ⟨s.field.name, ?_, ?_⟩, hsame, rfl⟩
  · exact Text.cutAtChar?_append hname t
  · exact s.field.normalize_name

/-- Settings applied one after the other. -/
theorem exists_applyItems_items (c : Config) {settings : List Setting}
    (hfields : (settings.map Setting.field).Nodup)
    (hread : ∀ s ∈ settings, ∃ v, s.field.read s.text = .ok v) :
    ∃ c', c.applyItems (settings.map fun s => Text.trim s.item) = (c', none) ∧
      c.Shows settings c' := by
  induction settings generalizing c with
  | nil => exact ⟨c, rfl, .nil c⟩
  | cons s settings ih =>
    rw [List.map_cons, List.nodup_cons] at hfields
    rw [List.forall_mem_cons] at hread
    obtain ⟨⟨v, hv⟩, hread⟩ := hread
    obtain ⟨c', hitems, hshows⟩ := ih (c.put s.field v) hfields.2 hread
    refine ⟨c', ?_, .cons hfields.1 hv hshows⟩
    rw [List.map_cons, applyItems, applyItem_item c hv]
    exact hitems

/-- The text is made of the items with a semicolon or a comma between every two of them. -/
inductive Joined : List Text → Text → Prop where
  | nil : Joined [] []
  | single (item : Text) : Joined [item] item
  | cons {next t : Text} {items : List Text} (item : Text) {separator : Char}
      (hseparator : separator = ';' ∨ separator = ',') (h : Joined (next :: items) t) :
      Joined (item :: next :: items) (item ++ separator :: t)

/-- An item without separators, and not blank, is the only item of its text. -/
theorem optionItems_of_not_mem {item : Text} (hsemicolon : ';' ∉ item) (hcomma : ',' ∉ item)
    (hblank : Text.trim item ≠ []) : optionItems item = [Text.trim item] := by
  have hsplit : Text.splitWhere (fun c => c = ';' || c = ',') item = [item] := by
    refine Text.splitWhere_of_forall fun c hc => ?_
    simp [ne_of_mem_of_not_mem hc hsemicolon, ne_of_mem_of_not_mem hc hcomma]
  rw [optionItems, hsplit]
  simp [hblank]

/-- Joined items are found again, without the blanks around them. -/
theorem optionItems_of_joined {items : List Text} {options : Text} (h : Joined items options)
    (hitems : ∀ item ∈ items, ';' ∉ item ∧ ',' ∉ item ∧ Text.trim item ≠ []) :
    optionItems options = items.map Text.trim := by
  induction h with
  | nil => rfl
  | single item =>
    obtain ⟨hsemicolon, hcomma, hblank⟩ := hitems item List.mem_cons_self
    exact optionItems_of_not_mem hsemicolon hcomma hblank
  | cons item hseparator _ ih =>
    rw [List.forall_mem_cons] at hitems
    obtain ⟨⟨hsemicolon, hcomma, hblank⟩, hitems⟩ := hitems
    rw [optionItems_append _ _ hseparator, ih hitems,
      optionItems_of_not_mem hsemicolon hcomma hblank]
    rfl

/-- Settings in an option string. -/
theorem exists_ofOptions_eq {settings : List Setting} {options : Text}
    (hfields : (settings.map Setting.field).Nodup)
    (hread : ∀ s ∈ settings, ∃ v, s.field.read s.text = .ok v)
    (hoptions : Joined (settings.map Setting.item) options) :
    ∃ c, ofOptions options = .ok c ∧ ({} : Config).Shows settings c := by
  have hitems : optionItems options = settings.map fun s => Text.trim s.item := by
    rw [optionItems_of_joined hoptions, List.map_map]
    · rfl
    · intro item hitem
      obtain ⟨s, hs, rfl⟩ := List.mem_map.1 hitem
      obtain ⟨v, hv⟩ := hread s hs
      obtain ⟨t, htrim, -⟩ := trim_item s
      have hseparator {c : Char} (hc : c = ';' ∨ c = ',') : c ∉ s.item := by
        have hname : c ∉ s.field.name := fun h => by
          have hplain := s.field.name_plain c h
          exact hc.elim hplain.2.2.1 hplain.2.2.2
        have hequals : c ≠ '=' := by rcases hc with rfl | rfl <;> decide
        simp [Setting.item, hname, hequals, not_mem_of_read hv hc]
      exact ⟨hseparator (.inl rfl), hseparator (.inr rfl), by simp [htrim]⟩
  obtain ⟨c, happly, hshows⟩ := exists_applyItems_items {} hfields hread
  refine ⟨c, ?_, hshows⟩
  rw [ofOptions, applyOptions, hitems, happly]

/-! ## As members -/

/-- A setting as a member gives its field its value. -/
theorem setMember?_member (c : Config) {s : Setting} (hs : s.IsAccepted) {v : s.field.Value}
    (hread : s.field.read s.text = .ok v) : c.setMember? s.member = some (c.put s.field v) := by
  obtain ⟨field, text⟩ := s
  have hset : c.setField field text = .ok (c.put field v) := by
    rw [setField_eq, hread]
    rfl
  rw [setMember?, Setting.member, Field.ofName?_name, Option.bind_some]
  cases field with
  | target | groupBy | order => exact congrArg Except.toOption hset
  | useGroup =>
    have htrue : Field.useGroup.read "true".toList = .ok true := by
      rw [Field.read_eq_ok_iff, Text.normalize_of_ascii (by decide)]
      decide
    have hfalse : Field.useGroup.read "false".toList = .ok false := by
      rw [Field.read_eq_ok_iff, Text.normalize_of_ascii (by decide)]
      decide
    rcases hs.flag rfl with rfl | rfl
    · cases htrue.symm.trans hread
      rfl
    · cases hfalse.symm.trans hread
      rfl

/-- Members set one after the other. -/
theorem exists_foldlM_members (c : Config) {settings : List Setting}
    (hfields : (settings.map Setting.field).Nodup) (haccepted : ∀ s ∈ settings, s.IsAccepted) :
    ∃ c', (settings.map Setting.member).foldlM setMember? c = some c' ∧ c.Shows settings c' := by
  induction settings generalizing c with
  | nil => exact ⟨c, rfl, .nil c⟩
  | cons s settings ih =>
    rw [List.map_cons, List.nodup_cons] at hfields
    rw [List.forall_mem_cons] at haccepted
    obtain ⟨hs, haccepted⟩ := haccepted
    obtain ⟨v, hv⟩ := hs.readable
    obtain ⟨c', hmembers, hshows⟩ := ih (c.put s.field v) hfields.2 haccepted
    refine ⟨c', ?_, .cons hfields.1 hv hshows⟩
    rw [List.map_cons, List.foldlM_cons, setMember?_member c hs hv]
    exact hmembers

/-- Settings in a document. -/
theorem exists_read_eq {settings : List Setting} {document : Text}
    (hfields : (settings.map Setting.field).Nodup) (haccepted : ∀ s ∈ settings, s.IsAccepted)
    (hdocument : Json.read? document = some (.map (settings.map Setting.member))) :
    ∃ c, read document = .ok c ∧ ({} : Config).Shows settings c := by
  have hnames : ((settings.map Setting.member).map (·.1)).Nodup := by
    have hmap : (settings.map Setting.member).map (·.1) =
        (settings.map Setting.field).map Field.name := by
      rw [List.map_map, List.map_map]
      rfl
    rw [hmap]
    exact List.Pairwise.map Field.name (fun _ _ hne heq => hne (Field.name_injective heq)) hfields
  obtain ⟨c, hmembers, hshows⟩ := exists_foldlM_members {} hfields haccepted
  refine ⟨c, ?_, hshows⟩
  rw [read, ofJson?, hdocument, Option.bind_some, ofData?, if_pos hnames, hmembers]

/-- **An option string and a document with the same settings give the same configuration.** For
different fields, in any order on either side, with any spelling of their values, both are accepted; the
fields that no setting names have their defaults. -/
theorem read_eq_ofOptions {settings listed written : List Setting}
    (hfields : (settings.map Setting.field).Nodup) (haccepted : ∀ s ∈ settings, s.IsAccepted)
    (hlisted : listed.Perm settings) (hwritten : written.Perm settings) {options document : Text}
    (hoptions : Joined (listed.map Setting.item) options)
    (hdocument : Json.read? document = some (.map (written.map Setting.member))) :
    ∃ c, ofOptions options = .ok c ∧ read document = .ok c ∧ ({} : Config).Shows settings c := by
  have hnodup {settings' : List Setting} (hperm : settings'.Perm settings) :
      (settings'.map Setting.field).Nodup := (hperm.map Setting.field).nodup_iff.2 hfields
  obtain ⟨c, hofOptions, hshows⟩ := exists_ofOptions_eq (hnodup hlisted)
    (fun s hs => (haccepted s (hlisted.mem_iff.1 hs)).readable) hoptions
  obtain ⟨c', hread, hshows'⟩ := exists_read_eq (hnodup hwritten)
    (fun s hs => haccepted s (hwritten.mem_iff.1 hs)) hdocument
  have heq : c = c' := (hshows.congr hlisted).unique (hshows'.congr hwritten)
  exact ⟨c, hofOptions, heq ▸ hread, hshows.congr hlisted⟩

/-- Two settings, exchanged on one side, with capital letters and with blanks beyond the usual ones. -/
theorem read_eq_ofOptions_spaced :
    let options := "usegroup=false,order=\u2003OLDEST\n".toList
    let document := "\x7b\"order\":\"\u2003OLDEST\\n\",\"usegroup\":false\x7d".toList
    let c : Config := { useGroup := false, order := .ascending }
    ofOptions options = .ok c ∧ read document = .ok c := by
  intro options document c
  let order : Setting := ⟨.order, "\u2003OLDEST\n".toList⟩
  let flag : Setting := ⟨.useGroup, "false".toList⟩
  have horder : Field.order.read order.text = .ok GroupOrder.ascending := by
    rw [Field.read_eq_ok_iff, Text.normalize_of_ascii (by decide)]
    decide
  have hflag : Field.useGroup.read flag.text = .ok false := by
    rw [Field.read_eq_ok_iff, Text.normalize_of_ascii (by decide)]
    decide
  have haccepted : ∀ s ∈ [order, flag], s.IsAccepted := by
    rintro s (_ | ⟨_, _ | ⟨_, ⟨⟩⟩⟩)
    · exact ⟨⟨_, horder⟩, fun h => nomatch h⟩
    · exact ⟨⟨_, hflag⟩, fun _ => .inr rfl⟩
  have hdocument : Json.read? document = some (.map ([order, flag].map Setting.member)) := by
    have hwritten : document = Json.writeMap ([order, flag].map Setting.member) := by decide
    rw [hwritten]
    exact Json.read?_writeMap (by decide)
  have hoptions : Joined ([flag, order].map Setting.item) options := .cons _ (.inr rfl) (.single _)
  obtain ⟨c', hofOptions, hread, hshows⟩ := read_eq_ofOptions (by decide) haccepted
    (.swap order flag []) (.refl _) hoptions hdocument
  have hc : ({} : Config).Shows [order, flag] c :=
    .cons (by decide) horder (.cons (by decide) hflag (.nil c))
  obtain rfl := hshows.unique hc
  exact ⟨hofOptions, hread⟩

end PubList.Config
