/-!
# Text

Templates, field values and documents are lists of characters, so that every scanner is a
recursion on its input. Sizes in bytes are those of the UTF-8 form.
-/

namespace PubList

/-- A text is the list of its characters. -/
abbrev Text := List Char

namespace Text

instance : LawfulBEq Text := inferInstance

/-- How many bytes the UTF-8 form of a text takes. -/
def utf8Size (t : Text) : Nat := t.foldr (fun c size => c.utf8Size + size) 0

@[simp] theorem utf8Size_nil : utf8Size [] = 0 := rfl

@[simp] theorem utf8Size_cons (c : Char) (t : Text) :
    utf8Size (c :: t) = c.utf8Size + utf8Size t := rfl

@[simp] theorem utf8Size_append (s t : Text) : utf8Size (s ++ t) = utf8Size s + utf8Size t := by
  induction s with
  | nil => simp
  | cons c s ih => simp [ih, Nat.add_assoc]

/-- The decimal digits of a natural number. -/
def ofNat (n : Nat) : Text := Nat.toDigits 10 n

/-- The decimal digits of an integer, after a minus sign if it is negative. -/
def ofInt : Int → Text
  | .ofNat n => ofNat n
  | .negSucc n => '-' :: ofNat (n + 1)

/-- A character that may stand in a name: an ASCII letter, an ASCII digit or the low line. -/
def isWordChar (c : Char) : Bool := c.isAlphanum || c = '_'

theorem isWordChar_at : isWordChar '@' = false := by decide

/-- A word: at least one character, and word characters only. -/
def IsWord (t : Text) : Prop := t ≠ [] ∧ ∀ c ∈ t, isWordChar c = true

/-! What is said of all or of some characters of a text is decided along the text, never by going
through all characters there are. -/

instance decidableForallMem (t : Text) (p : Char → Prop) [DecidablePred p] :
    Decidable (∀ c ∈ t, p c) :=
  List.decidableBAll p t

instance decidableExistsMem (t : Text) (p : Char → Prop) [DecidablePred p] :
    Decidable (∃ c ∈ t, p c) :=
  List.decidableBEx p t

instance (t : Text) : Decidable (IsWord t) :=
  inferInstanceAs (Decidable (t ≠ [] ∧ ∀ c ∈ t, isWordChar c = true))

end Text

end PubList
