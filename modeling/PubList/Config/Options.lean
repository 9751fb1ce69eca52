import PubList.Config.Basic

/-!
# Option strings

An option string is a list of `name=value` items between semicolons or commas. The items are
applied one after the other, and the first one that is refused ends the list: what was set before
it stays set.
-/

namespace PubList.Config

/-- The items of an option string, trimmed; empty items do not count. -/
def optionItems (options : Text) : List Text :=
  ((Text.splitWhere (fun c => c = ';' || c = ',') options).map Text.trim).filter (· ≠ [])

/-- Applies one item. -/
def applyItem (c : Config) (item : Text) : Except ConfigError Config :=
  match Text.cutAtChar? '=' item with
  | some (name, value) => c.set name value
  | none => .error (.notPair item)

/-- Applies items up to the first one that is refused: the configuration then, and why it was
refused. -/
def applyItems (c : Config) : List Text → Config × Option ConfigError
  | [] => (c, none)
  | item :: items =>
    match c.applyItem item with
    | .ok next => next.applyItems items
    | .error cause => (c, some cause)

/-- Applies an option string. -/
def applyOptions (c : Config) (options : Text) : Config × Option ConfigError :=
  c.applyItems (optionItems options)

/-- The configuration that an option string describes on top of the default one. -/
def ofOptions (options : Text) : Except ConfigError Config :=
  match ({} : Config).applyOptions options with
  | (c, none) => .ok c
  | (_, some cause) => .error cause

@[simp] theorem applyItems_nil (c : Config) : c.applyItems [] = (c, none) := rfl

/-- Items that all succeed hand their configuration on; a failure among them is final. -/
theorem applyItems_append (c : Config) (items more : List Text) :
    c.applyItems (items ++ more) =
      match c.applyItems items with
      | (next, none) => next.applyItems more
      | (next, some cause) => (next, some cause) := by
  induction items generalizing c with
  | nil => rfl
  | cons item items ih =>
    simp only [List.cons_append, applyItems]
    cases c.applyItem item with
    | ok next => exact ih next
    | error cause => rfl

end PubList.Config
