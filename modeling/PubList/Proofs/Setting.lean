import Mathlib.Tactic.SplitIfs
import PubList.Config.Basic

/-!
# The fields of a configuration and their values

Each of the four fields has a name, a kind of value and a way to read it. A configuration is the values
of its fields (`ext_value`), and giving a field a value changes this field and no other
(`value_put_self`, `value_put_of_ne`).
-/

namespace PubList.Config

namespace Field

/-- The kind of value that a field has. -/
abbrev Value : Field → Type
  | target => Target
  | useGroup => Bool
  | groupBy => GroupMode
  | order => GroupOrder

def name : Field → Text
  | target => "target".toList
  | useGroup => "usegroup".toList
  | groupBy => "groupby".toList
  | order => "order".toList

/-- Reads a value of a field. -/
def read : (field : Field) → Text → Except ConfigError field.Value
  | target => Target.read
  | useGroup => readFlag
  | groupBy => GroupMode.read
  | order => GroupOrder.read

/-- The words for the values of a field. -/
def spellings : (field : Field) → List (Text × field.Value)
  | target => [("wiki".toList, .wiki), ("text".toList, .text)]
  | useGroup =>
    ["true", "yes", "on", "1"].map (·.toList, true) ++
      ["false", "no", "off", "0"].map (·.toList, false)
  | groupBy =>
    [("none".toList, .none), ("author".toList, .author), ("title".toList, .title),
      ("year".toList, .year)]
  | order =>
    [("newest".toList, .descending), ("descending".toList, .descending),
      ("oldest".toList, .ascending), ("ascending".toList, .ascending)]

/-- A text is read as a value if it is a word for it, apart from case and the blanks around it. -/
theorem read_eq_ok_iff {field : Field} {t : Text} {v : field.Value} :
    field.read t = .ok v ↔ (Text.normalize t, v) ∈ field.spellings := by
  -- One direction is the test that succeeds, the other one is an evaluation for each word.
  cases field with
  | target =>
    simp only [read, Target.read, spellings]
    generalize Text.normalize t = key
    constructor
    · intro h
      split_ifs at h with hkey hkey <;> cases h <;> simp [hkey]
    · simp only [List.mem_cons, List.not_mem_nil, Prod.mk.injEq, or_false]
      rintro (⟨rfl, rfl⟩ | ⟨rfl, rfl⟩) <;> rfl
  | useGroup =>
    simp only [read, readFlag, spellings]
    generalize Text.normalize t = key
    constructor
    · intro h
      split_ifs at h with hkey hkey <;> cases h <;>
        obtain ⟨word, hword, heq⟩ := List.any_eq_true.1 hkey
      · exact List.mem_append_left _ (List.mem_map.2 ⟨word, hword, by rw [of_decide_eq_true heq]⟩)
      · exact List.mem_append_right _ (List.mem_map.2 ⟨word, hword, by rw [of_decide_eq_true heq]⟩)
    · simp only [List.mem_append, List.mem_map, List.mem_cons, List.not_mem_nil, or_false]
      rintro (⟨_, rfl | rfl | rfl | rfl, h⟩ | ⟨_, rfl | rfl | rfl | rfl, h⟩) <;> cases h <;> rfl
  | groupBy =>
    simp only [read, GroupMode.read, spellings]
    generalize Text.normalize t = key
    constructor
    · intro h
      split_ifs at h with hkey hkey hkey hkey <;> cases h <;> simp [hkey]
    · simp only [List.mem_cons, List.not_mem_nil, Prod.mk.injEq, or_false]
      rintro (⟨rfl, rfl⟩ | ⟨rfl, rfl⟩ | ⟨rfl, rfl⟩ | ⟨rfl, rfl⟩) <;> rfl
  | order =>
    simp only [read, GroupOrder.read, spellings]
    generalize Text.normalize t = key
    constructor
    · intro h
      split_ifs at h with hkey hkey <;> cases h <;> simpa using hkey
    · simp only [List.mem_cons, List.not_mem_nil, Prod.mk.injEq, or_false]
      rintro (⟨rfl, rfl⟩ | ⟨rfl, rfl⟩ | ⟨rfl, rfl⟩ | ⟨rfl, rfl⟩) <;> rfl

theorem ofName?_name (field : Field) : ofName? field.name = some field := by
  cases field <;> decide

/-- A field is found by its name and by nothing else. -/
theorem ofName?_eq_some_iff {t : Text} {field : Field} :
    ofName? t = some field ↔ t = field.name := by
  constructor
  · intro h
    unfold ofName? at h
    split_ifs at h with ht ht ht ht <;> cases h <;> exact ht
  · rintro rfl
    exact ofName?_name field

theorem name_injective {field field' : Field} (h : field.name = field'.name) : field = field' :=
  Option.some.inj ((ofName?_name field).symm.trans (ofName?_eq_some_iff.2 h))

end Field

/-- The value of a field. -/
def value (c : Config) : (field : Field) → field.Value
  | .target => c.target
  | .useGroup => c.useGroup
  | .groupBy => c.groupBy
  | .order => c.order

/-- Gives a field a value. -/
def put (c : Config) : (field : Field) → field.Value → Config
  | .target, target => { c with target }
  | .useGroup, useGroup => { c with useGroup }
  | .groupBy, groupBy => { c with groupBy }
  | .order, order => { c with order }

@[simp] theorem value_put_self (c : Config) (field : Field) (v : field.Value) :
    (c.put field v).value field = v := by
  cases field <;> rfl

theorem value_put_of_ne (c : Config) {field field' : Field} (h : field' ≠ field) (v : field.Value) :
    (c.put field v).value field' = c.value field' := by
  cases field <;> cases field' <;> trivial

theorem ext_value {c c' : Config} (h : ∀ field, c.value field = c'.value field) : c = c' := by
  obtain ⟨target, useGroup, groupBy, order⟩ := c
  obtain ⟨target', useGroup', groupBy', order'⟩ := c'
  have htarget : target = target' := h .target
  have hgroup : useGroup = useGroup' := h .useGroup
  have hmode : groupBy = groupBy' := h .groupBy
  have horder : order = order' := h .order
  rw [htarget, hgroup, hmode, horder]

/-- Setting a field is reading its value and putting it there. -/
theorem setField_eq (c : Config) (field : Field) (t : Text) :
    c.setField field t = (field.read t).map (c.put field) := by
  cases field <;> rfl

/-- What setting an option by its name does if it succeeds. -/
theorem set_eq_ok_iff {c c' : Config} {name t : Text} :
    c.set name t = .ok c' ↔
      ∃ field v, Text.normalize name = field.name ∧ field.read t = .ok v ∧ c' = c.put field v := by
  simp only [set]
  cases hfield : Field.ofName? (Text.normalize name) with
  | none =>
    constructor
    · intro h
      cases h
    · rintro ⟨field, _, hname, -⟩
      rw [Field.ofName?_eq_some_iff.2 hname] at hfield
      cases hfield
  | some field =>
    have hname := Field.ofName?_eq_some_iff.1 hfield
    simp only [setField_eq]
    constructor
    · intro h
      cases hread : field.read t with
      | error cause =>
        rw [hread] at h
        cases h
      | ok v =>
        rw [hread] at h
        cases h
        exact ⟨field, v, hname, hread, rfl⟩
    · rintro ⟨field', v, hname', hread, rfl⟩
      cases Field.name_injective (hname.symm.trans hname')
      rw [hread]
      rfl

end PubList.Config
