import PubList.Config.Options
import PubList.Proofs.LowerCase
import PubList.Proofs.Setting

/-!
# Option strings item by item

An item that is accepted gives one field a value and does nothing else (`applyItem_eq_ok_iff`). What a
list of accepted items makes of a configuration is therefore known field by field: each field has the
value of the last item that names it (`Becomes`, `becomes_of_applyItems`). A list that is refused has
done what its items in front of the refused one do (`exists_split_of_applyItems`).

An option string is the list of its items, and a separator between two strings joins their lists
(`optionItems_append`), so `applyOptions_item_by_item` follows from what lists do.
-/

namespace PubList.Config

/-! ## One item -/

/-- The text that an item gives a field, if it names the field. -/
def textFor? (field : Field) (item : Text) : Option Text :=
  match Text.cutAtChar? '=' item with
  | some (name, t) => if Text.normalize name = field.name then some t else none
  | none => none

/-- Whether an item names a field. -/
def names (field : Field) (item : Text) : Bool := (textFor? field item).isSome

/-- The item gives some field a text that is a value of the field. -/
def Accepted (item : Text) : Prop :=
  ∃ field t v, textFor? field item = some t ∧ Field.read field t = .ok v

/-- What an item is that names a field. -/
theorem textFor?_eq_some_iff {field : Field} {item t : Text} :
    textFor? field item = some t ↔
      ∃ name, Text.cutAtChar? '=' item = some (name, t) ∧ Text.normalize name = field.name := by
  unfold textFor?
  cases hcut : Text.cutAtChar? '=' item with
  | none => simp
  | some parts =>
    obtain ⟨name, t'⟩ := parts
    by_cases hname : Text.normalize name = field.name
    · simp only [if_pos hname]
      constructor
      · intro h
        cases h
        exact ⟨name, rfl, hname⟩
      · rintro ⟨name', heq, -⟩
        cases heq
        rfl
    · simp only [if_neg hname]
      constructor
      · intro h
        cases h
      · rintro ⟨name', heq, hname'⟩
        cases heq
        exact absurd hname' hname

/-- An item names no more than one field. -/
theorem textFor?_eq_none_of_ne {field field' : Field} {item t : Text}
    (h : textFor? field item = some t) (hne : field' ≠ field) : textFor? field' item = none := by
  obtain ⟨name, hcut, hname⟩ := textFor?_eq_some_iff.1 h
  rw [Option.eq_none_iff_forall_ne_some]
  intro t' ht'
  obtain ⟨name', hcut', hname'⟩ := textFor?_eq_some_iff.1 ht'
  cases hcut.symm.trans hcut'
  exact hne (Field.name_injective (hname'.symm.trans hname))

theorem names_eq_of_textFor? {field : Field} {item t : Text} (h : textFor? field item = some t)
    (field' : Field) : names field' item = decide (field' = field) := by
  by_cases hfield : field' = field
  · simp [names, hfield, h]
  · simp [names, hfield, textFor?_eq_none_of_ne h hfield]

/-- What an item does if it is not refused: it gives the field that it names the value that it gives. -/
theorem applyItem_eq_ok_iff {c c' : Config} {item : Text} :
    c.applyItem item = .ok c' ↔
      ∃ field t v, textFor? field item = some t ∧ field.read t = .ok v ∧ c' = c.put field v := by
  unfold applyItem
  cases hcut : Text.cutAtChar? '=' item with
  | none =>
    simp only [textFor?_eq_some_iff, hcut]
    constructor
    · intro h
      cases h
    · rintro ⟨_, _, _, ⟨_, h, -⟩, -⟩
      cases h
  | some parts =>
    obtain ⟨name, t⟩ := parts
    simp only [set_eq_ok_iff, textFor?_eq_some_iff, hcut]
    constructor
    · rintro ⟨field, v, hname, hread, rfl⟩
      exact ⟨field, t, v, ⟨name, rfl, hname⟩, hread, rfl⟩
    · rintro ⟨field, t', v, ⟨name', heq, hname⟩, hread, rfl⟩
      cases heq
      exact ⟨field, v, hname, hread, rfl⟩

/-- Whether an item is refused does not depend on the configuration. -/
theorem accepted_iff {c : Config} {item : Text} :
    Accepted item ↔ ∃ c', c.applyItem item = .ok c' := by
  constructor
  · rintro ⟨field, t, v, hitem, hread⟩
    exact ⟨c.put field v, applyItem_eq_ok_iff.2 ⟨field, t, v, hitem, hread, rfl⟩⟩
  · rintro ⟨c', h⟩
    obtain ⟨field, t, v, hitem, hread, -⟩ := applyItem_eq_ok_iff.1 h
    exact ⟨field, t, v, hitem, hread⟩

/-! ## A list of items -/

/-- The text of the last item that names a field. -/
def lastText? (field : Field) (items : List Text) : Option Text :=
  (items.filterMap (textFor? field)).getLast?

/-- A later item that names the field takes precedence. -/
theorem lastText?_cons (field : Field) (item : Text) (items : List Text) :
    lastText? field (item :: items) = (lastText? field items).or (textFor? field item) := by
  unfold lastText?
  cases hitem : textFor? field item with
  | none => rw [List.filterMap_cons_none hitem, Option.or_none]
  | some t =>
    rw [List.filterMap_cons_some hitem, List.getLast?_cons]
    cases (items.filterMap (textFor? field)).getLast? <;> rfl

/-- What items make of a configuration: each field has the value that the last item naming it gives,
and a field that no item names has the value that it had. -/
def Becomes (c : Config) (items : List Text) (c' : Config) : Prop :=
  ∀ field : Field,
    match lastText? field items with
    | some t => field.read t = .ok (c'.value field)
    | none => c'.value field = c.value field

/-- Items make only one configuration of a configuration. -/
theorem Becomes.unique {c c₁ c₂ : Config} {items : List Text} (h₁ : c.Becomes items c₁)
    (h₂ : c.Becomes items c₂) : c₁ = c₂ := by
  refine ext_value fun field => ?_
  replace h₁ := h₁ field
  replace h₂ := h₂ field
  cases hlast : lastText? field items with
  | some t =>
    rw [hlast] at h₁ h₂
    exact Except.ok.inj (h₁.symm.trans h₂)
  | none =>
    rw [hlast] at h₁ h₂
    exact h₁.trans h₂.symm

/-- One more item in front counts for the field that it names, unless a later item names it too. -/
theorem Becomes.cons {c c₁ c₂ : Config} {item : Text} {items : List Text}
    (hitem : c.applyItem item = .ok c₁) (hitems : c₁.Becomes items c₂) :
    c.Becomes (item :: items) c₂ := by
  obtain ⟨field, t, v, htext, hread, rfl⟩ := applyItem_eq_ok_iff.1 hitem
  intro field'
  have hrest := hitems field'
  rw [lastText?_cons]
  cases hlast : lastText? field' items with
  | some t' =>
    rw [hlast] at hrest
    exact hrest
  | none =>
    rw [hlast] at hrest
    by_cases hfield : field' = field
    · subst hfield
      rw [htext]
      show field'.read t = .ok (c₂.value field')
      rw [hrest, value_put_self, hread]
    · rw [textFor?_eq_none_of_ne htext hfield]
      exact hrest.trans (value_put_of_ne c hfield v)

/-- **The last item counts.** Items that are all accepted give each field the value of the last one
that names it. -/
theorem becomes_of_applyItems {c c' : Config} {items : List Text}
    (h : c.applyItems items = (c', none)) : c.Becomes items c' := by
  induction items generalizing c with
  | nil =>
    cases h
    exact fun _ => rfl
  | cons item items ih =>
    rw [applyItems] at h
    cases hitem : c.applyItem item with
    | ok next =>
      rw [hitem] at h
      exact Becomes.cons hitem (ih h)
    | error cause =>
      rw [hitem] at h
      cases h

/-- Nothing is refused exactly if each item is accepted. -/
theorem forall_accepted_iff {c : Config} {items : List Text} :
    (∀ item ∈ items, Accepted item) ↔ ∃ c', c.applyItems items = (c', none) := by
  induction items generalizing c with
  | nil => exact ⟨fun _ => ⟨c, rfl⟩, fun _ item hmem => nomatch hmem⟩
  | cons item items ih =>
    rw [List.forall_mem_cons, accepted_iff (c := c), applyItems]
    cases c.applyItem item with
    | ok next =>
      rw [ih (c := next)]
      exact ⟨fun h => h.2, fun h => ⟨⟨next, rfl⟩, h⟩⟩
    | error cause =>
      constructor
      · rintro ⟨⟨_, h⟩, -⟩
        cases h
      · rintro ⟨_, h⟩
        cases h

/-- Where items are refused, the ones in front of the first refused one have been applied. -/
theorem exists_split_of_applyItems {c c' : Config} {items : List Text} {cause : ConfigError}
    (h : c.applyItems items = (c', some cause)) :
    ∃ before item after, items = before ++ item :: after ∧
      c.applyItems before = (c', none) ∧ c'.applyItem item = .error cause := by
  induction items generalizing c with
  | nil => cases h
  | cons item items ih =>
    rw [applyItems] at h
    cases hitem : c.applyItem item with
    | ok next =>
      rw [hitem] at h
      obtain ⟨before, refused, after, rfl, hbefore, hrefused⟩ := ih h
      refine ⟨item :: before, refused, after, rfl, ?_, hrefused⟩
      rw [applyItems, hitem]
      exact hbefore
    | error cause' =>
      rw [hitem] at h
      cases h
      exact ⟨[], item, items, rfl, rfl, hitem⟩

/-- The last text for a field depends on the items that name it only. -/
theorem lastText?_congr {field : Field} {items items' : List Text}
    (h : items.filter (names field) = items'.filter (names field)) :
    lastText? field items = lastText? field items' := by
  have hnamed (items : List Text) :
      (items.filter (names field)).filterMap (textFor? field) =
        items.filterMap (textFor? field) := by
    rw [List.filterMap_filter]
    congr 1
    funext item
    unfold names
    cases textFor? field item <;> rfl
  rw [lastText?, lastText?, ← hnamed items, ← hnamed items', h]

/-- Items may be exchanged if no two of them name the same field. -/
theorem applyItems_perm {c c' : Config} {items items' : List Text} (hperm : items'.Perm items)
    (horder : ∀ field, items'.filter (names field) = items.filter (names field))
    (h : c.applyItems items = (c', none)) : c.applyItems items' = (c', none) := by
  have haccepted := forall_accepted_iff.2 ⟨c', h⟩
  have hitems' : ∃ c'', c.applyItems items' = (c'', none) :=
    forall_accepted_iff.1 fun item hitem => haccepted item (hperm.mem_iff.1 hitem)
  obtain ⟨c'', h''⟩ := hitems'
  have hbecomes : c.Becomes items c'' := fun field => by
    rw [lastText?_congr (horder field).symm]
    exact becomes_of_applyItems h'' field
  rw [h'', hbecomes.unique (becomes_of_applyItems h)]

/-! ## Option strings -/

/-- The items of two option strings with a separator between them are those of both. -/
theorem optionItems_append (a b : Text) {s : Char} (hs : s = ';' ∨ s = ',') :
    optionItems (a ++ s :: b) = optionItems a ++ optionItems b := by
  have hsplit : (decide (s = ';') || decide (s = ',')) = true := by simpa using hs
  rw [optionItems, Text.splitWhere_append _ _ _ _ hsplit, List.map_append, List.filter_append]
  rfl

/-- **Option strings act item by item.** Behind a string that is accepted, another one acts on what the
first one has made. Behind one that is refused, nothing more happens: the items in front of the refused
item have been applied, and it has not. A string that is accepted gives each field the value of the last
item that names it, leaves the other fields as they were, and may be written with its items in any other
order that keeps the order of the items for each field. -/
theorem applyOptions_item_by_item (c : Config) (a b : Text) {s : Char} (hs : s = ';' ∨ s = ',') :
    (∀ c', c.applyOptions a = (c', none) → c.applyOptions (a ++ s :: b) = c'.applyOptions b) ∧
    (∀ c' cause, c.applyOptions a = (c', some cause) →
      c.applyOptions (a ++ s :: b) = (c', some cause) ∧
        ∃ before item after, optionItems a = before ++ item :: after ∧
          c.applyItems before = (c', none) ∧ c.Becomes before c' ∧
          c'.applyItem item = .error cause) ∧
    (∀ c', c.applyOptions a = (c', none) →
      c.Becomes (optionItems a) c' ∧
        ∀ a', (optionItems a').Perm (optionItems a) →
          (∀ field, (optionItems a').filter (names field) = (optionItems a).filter (names field)) →
          c.applyOptions a' = (c', none)) := by
  have happend : c.applyOptions (a ++ s :: b) = c.applyItems (optionItems a ++ optionItems b) := by
    rw [applyOptions, optionItems_append a b hs]
  refine ⟨fun c' ha => ?_, fun c' cause ha => ⟨?_, ?_⟩, fun c' ha => ⟨?_, fun a' => ?_⟩⟩
  · rw [applyOptions] at ha
    rw [happend, applyItems_append, ha]
    rfl
  · rw [applyOptions] at ha
    rw [happend, applyItems_append, ha]
  · obtain ⟨before, item, after, hsplit, hbefore, hitem⟩ := exists_split_of_applyItems ha
    exact ⟨before, item, after, hsplit, hbefore, becomes_of_applyItems hbefore, hitem⟩
  · exact becomes_of_applyItems ha
  · intro hperm horder
    exact applyItems_perm hperm horder ha

/-- Items with blanks and capital letters, another string behind them, and the items exchanged. -/
theorem applyOptions_item_by_item_spaced :
    let a := "groupby=author; Order = OLDEST".toList
    let b := "order=newest".toList
    let c : Config := { groupBy := .author, order := .ascending }
    ({} : Config).applyOptions a = (c, none) ∧
      ({} : Config).applyOptions (a ++ ',' :: b) = c.applyOptions b ∧
      ({} : Config).applyOptions "Order = OLDEST,groupby=author".toList = (c, none) := by
  intro a b c
  have hauthor : textFor? .groupBy "groupby=author".toList = some "author".toList := by
    refine textFor?_eq_some_iff.2 ⟨"groupby".toList, by decide, ?_⟩
    rw [Text.normalize_of_ascii (by decide)]
    decide
  have horder : textFor? .order "Order = OLDEST".toList = some " OLDEST".toList := by
    refine textFor?_eq_some_iff.2 ⟨"Order ".toList, by decide, ?_⟩
    rw [Text.normalize_of_ascii (by decide)]
    decide
  have hauthorValue : Field.groupBy.read "author".toList = .ok GroupMode.author := by
    rw [Field.read_eq_ok_iff, Text.normalize_of_ascii (by decide)]
    decide
  have horderValue : Field.order.read " OLDEST".toList = .ok GroupOrder.ascending := by
    rw [Field.read_eq_ok_iff, Text.normalize_of_ascii (by decide)]
    decide
  have hitems : optionItems a = ["groupby=author".toList, "Order = OLDEST".toList] := by decide
  have ha : ({} : Config).applyOptions a = (c, none) := by
    rw [applyOptions, hitems, applyItems,
      applyItem_eq_ok_iff.2 ⟨_, _, _, hauthor, hauthorValue, rfl⟩]
    dsimp only
    rw [applyItems, applyItem_eq_ok_iff.2 ⟨_, _, _, horder, horderValue, rfl⟩]
    rfl
  obtain ⟨hok, -, hresult⟩ := applyOptions_item_by_item {} a b (.inr rfl)
  refine ⟨ha, hok c ha, (hresult c ha).2 _ (by decide) fun field => ?_⟩
  have hexchanged : optionItems "Order = OLDEST,groupby=author".toList =
      ["Order = OLDEST".toList, "groupby=author".toList] := by decide
  have hpair {i j t u : Text} (hi : textFor? .groupBy i = some t) (hj : textFor? .order j = some u) :
      [j, i].filter (names field) = [i, j].filter (names field) := by
    cases field <;> simp [names_eq_of_textFor? hi, names_eq_of_textFor? hj]
  rw [hitems, hexchanged, hpair hauthor horder]

end PubList.Config
