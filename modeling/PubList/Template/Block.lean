import PubList.Text.Search

/-!
# Blocks

A block reaches from an opening marker to the first closing marker after it. Expanding the blocks
of a text replaces each of them by a text made from its body; a marker that has no partner stays.
-/

namespace PubList.Template

/-- The two kinds of blocks. -/
inductive BlockKind where
  | group
  | entry
  deriving DecidableEq, Repr

namespace BlockKind

def opener : BlockKind → Text
  | group => "@\x7bgroup@".toList
  | entry => "@\x7bentry@".toList

def closer : BlockKind → Text
  | group => "@\x7dgroup@".toList
  | entry => "@\x7dentry@".toList

theorem opener_length (kind : BlockKind) : kind.opener.length = 8 := by cases kind <;> rfl

theorem closer_length (kind : BlockKind) : kind.closer.length = 8 := by cases kind <;> rfl

end BlockKind

/-- A block in a text: what stands before it, its body, and what follows it. -/
structure Block where
  before : Text
  body : Text
  after : Text
  deriving DecidableEq, Repr

/-- The text that a block stands in. -/
def Block.text (b : Block) (kind : BlockKind) : Text :=
  b.before ++ kind.opener ++ b.body ++ kind.closer ++ b.after

/-- The first block: the first opening marker, and the first closing marker after it. -/
def findBlock? (kind : BlockKind) (t : Text) : Option Block := do
  let (before, rest) ← Text.cutAt? kind.opener t
  let (body, after) ← Text.cutAt? kind.closer rest
  return ⟨before, body, after⟩

/-- A block that is found, with what stands around it, is the whole text. -/
theorem eq_text_of_findBlock? {kind : BlockKind} {t : Text} {b : Block}
    (h : findBlock? kind t = some b) : t = b.text kind := by
  simp only [findBlock?, Option.bind_eq_bind, Option.bind_eq_some_iff] at h
  obtain ⟨⟨before, rest⟩, hopen, ⟨body, after⟩, hclose, heq⟩ := h
  cases heq
  have hrest : rest = _ := Text.eq_of_cutAt? hclose
  simp [Block.text, Text.eq_of_cutAt? hopen, hrest]

theorem length_after_lt_of_findBlock? {kind : BlockKind} {t : Text} {b : Block}
    (h : findBlock? kind t = some b) : b.after.length < t.length := by
  have hlength := congrArg List.length (eq_text_of_findBlock? h)
  simp only [Block.text, List.length_append, kind.opener_length] at hlength
  omega

/-- Replaces every block by what `expand` makes of its body. -/
def expandBlocks (kind : BlockKind) (expand : Text → Text) (t : Text) : Text :=
  match _h : findBlock? kind t with
  | none => t
  | some b => b.before ++ expand b.body ++ expandBlocks kind expand b.after
termination_by t.length
decreasing_by exact length_after_lt_of_findBlock? _h

theorem expandBlocks_of_none {kind : BlockKind} {t : Text} (expand : Text → Text)
    (h : findBlock? kind t = none) : expandBlocks kind expand t = t := by
  rw [expandBlocks]
  split <;> simp_all

theorem expandBlocks_of_some {kind : BlockKind} {t : Text} {b : Block} (expand : Text → Text)
    (h : findBlock? kind t = some b) :
    expandBlocks kind expand t = b.before ++ expand b.body ++ expandBlocks kind expand b.after := by
  rw [expandBlocks]
  split <;> simp_all

end PubList.Template
