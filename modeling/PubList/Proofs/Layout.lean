import PubList.Proofs.Mark

/-!
# Layouts

A layout is a text with blocks in it: literals, placeholders and blocks, one after the other. The
functions that walk over the blocks of a flat text (`expandBlocks`, `checkBlocks`,
`hasUnclosedEntry`) find the blocks of the layout, as long as what stands between them and in them
does not hold a marker. `Layout.write_induction` is the induction that all of them share.
-/

namespace PubList.Template

/-! ## Blocks in a text -/

/-- A block with its markers. -/
def marked (kind : BlockKind) (body : Text) : Text := kind.opener ++ body ++ kind.closer

/-- The search for an opening marker passes over the text. -/
abbrev PassesOpener (kind : BlockKind) : Text → Prop := Passes ('\x7b' :: kind.name)

/-- The search for a closing marker passes over the text. -/
abbrev PassesCloser (kind : BlockKind) : Text → Prop := Passes ('\x7d' :: kind.name)

section Fill

variable {lookup : Text → Option Text} {kind : BlockKind}

/-- The markers of a block are no placeholders. -/
theorem fills_marker {k : Char} (hk : k ∈ braces) :
    Fills lookup (placeholder (k :: kind.name)) (placeholder (k :: kind.name)) := by
  obtain ⟨hat, hword⟩ := not_word_of_mem_braces hk
  refine Fills.mark ?_ fun hmark => ?_
  · rw [List.mem_cons, not_or]
    exact ⟨Ne.symm hat, not_at_mem_of_isWord kind.isWord_name⟩
  · exact absurd List.mem_cons_self (not_mem_of_isWord hmark hword)

theorem fills_opener : Fills lookup kind.opener kind.opener := by
  rw [kind.opener_eq]
  exact fills_marker (by decide)

theorem fills_closer : Fills lookup kind.closer kind.closer := by
  rw [kind.closer_eq]
  exact fills_marker (by decide)

theorem fills_marked {s s' : Text} (h : Fills lookup s s') :
    Fills lookup (marked kind s) (marked kind s') :=
  (fills_opener.append h).append fills_closer

end Fill

section Find

variable {kind : BlockKind} {s body : Text}

/-- A search for a marker passes over a text without `@`. -/
theorem passesOpener_of_not_mem (hs : '@' ∉ s) : PassesOpener kind s := by
  simpa using Passes.append_of_not_mem hs (Passes.nil _)

theorem cutAt?_opener_eq_none (hs : PassesOpener kind s) : Text.cutAt? kind.opener s = none := by
  rw [kind.opener_eq]
  exact hs.cutAt?_eq_none

theorem findBlock?_eq_none (hs : PassesOpener kind s) : findBlock? kind s = none := by
  simp [findBlock?, cutAt?_opener_eq_none hs]

/-- The first block is found if no marker stands before it and its body has no closing one. -/
theorem findBlock?_marked (hs : PassesOpener kind s) (hbody : PassesCloser kind body) (t : Text) :
    findBlock? kind (s ++ (marked kind body ++ t)) = some ⟨s, body, t⟩ := by
  have hopen := hs.cutAt?_mark (by decide) (body ++ (kind.closer ++ t))
  have hclose := hbody.cutAt?_mark (by decide) t
  rw [← kind.opener_eq] at hopen
  rw [← kind.closer_eq] at hclose
  simp only [findBlock?, marked, List.append_assoc]
  simp [hopen, hclose]

theorem expandBlocks_marked (expand : Text → Text) (hs : PassesOpener kind s)
    (hbody : PassesCloser kind body) (t : Text) :
    expandBlocks kind expand (s ++ (marked kind body ++ t)) =
      s ++ (expand body ++ expandBlocks kind expand t) := by
  rw [expandBlocks_of_some expand (findBlock?_marked hs hbody t), List.append_assoc]

theorem hasUnclosedEntry_of_passes (hs : PassesOpener .entry s) : hasUnclosedEntry s = false := by
  rw [hasUnclosedEntry]
  split
  · rw [Text.contains, cutAt?_opener_eq_none hs, Option.isSome_none]
  · next h => simp [findBlock?_eq_none hs] at h

theorem hasUnclosedEntry_marked (hs : PassesOpener .entry s) (hbody : PassesCloser .entry body)
    (t : Text) : hasUnclosedEntry (s ++ (marked .entry body ++ t)) = hasUnclosedEntry t := by
  rw [hasUnclosedEntry]
  split
  · next h => simp [findBlock?_marked hs hbody] at h
  · next b h =>
    rw [findBlock?_marked hs hbody] at h
    cases h
    rfl

theorem checkBlocks_of_passes (hs : PassesOpener .group s) (offset : Nat) :
    checkBlocks offset s = .ok () := by
  rw [checkBlocks]
  split
  · rfl
  · next h => simp [findBlock?_eq_none hs] at h

/-- A group block without another opening marker and with closed entry blocks is accepted, and the
check goes on behind it. -/
theorem checkBlocks_marked (hs : PassesOpener .group s) (hbody : PassesCloser .group body)
    (hinner : PassesOpener .group body) (hentries : hasUnclosedEntry body = false) (offset : Nat)
    (t : Text) : ∃ offset', checkBlocks offset (s ++ (marked .group body ++ t)) =
      checkBlocks offset' t := by
  refine ⟨offset + Text.utf8Size (s ++ BlockKind.group.opener) + Text.utf8Size body +
    Text.utf8Size BlockKind.group.closer, ?_⟩
  rw [checkBlocks]
  split
  · next h => simp [findBlock?_marked hs hbody] at h
  · next b h =>
    rw [findBlock?_marked hs hbody] at h
    cases h
    simp [cutAt?_opener_eq_none hinner, hentries]

end Find

/-! ## Layouts -/

/-- A part of a layout. -/
inductive Piece (α : Type) where
  | literal (t : Text)
  | mark (name : Text)
  | block (body : α)
  deriving DecidableEq, Repr

/-- A text with blocks, the bodies of which are of type `α`. -/
abbrev Layout (α : Type) := List (Piece α)

/-- The text for a piece, where the texts for placeholders and blocks are given. -/
def Piece.write {α : Type} (value : Text → Text) (body : α → Text) : Piece α → Text
  | .literal t => t
  | .mark name => value name
  | .block b => body b

theorem flatMap_congr {α : Type} {parts : List α} {part part' : α → Text}
    (h : ∀ p ∈ parts, part p = part' p) : parts.flatMap part = parts.flatMap part' :=
  congrArg List.flatten (List.map_congr_left h)

namespace Layout

variable {α : Type}

/-- The text for a layout, where the texts for placeholders and blocks are given. -/
def write (value : Text → Text) (body : α → Text) (L : Layout α) : Text :=
  L.flatMap (Piece.write value body)

section Parts

variable {value value' : Text → Text} {body body' : α → Text} {L : Layout α}

theorem skips_write {m : Text} (hliteral : ∀ t, .literal t ∈ L → Skips m t)
    (hmark : ∀ name, .mark name ∈ L → Skips m (value name))
    (hblock : ∀ b, .block b ∈ L → Skips m (body b)) : Skips m (L.write value body) := by
  refine Skips.flatMap fun p hp => ?_
  cases p with
  | literal t => exact hliteral t hp
  | mark name => exact hmark name hp
  | block b => exact hblock b hp

theorem fills_write {lookup : Text → Option Text}
    (hliteral : ∀ t, .literal t ∈ L → Fills lookup t t)
    (hmark : ∀ name, .mark name ∈ L → Fills lookup (value name) (value' name))
    (hblock : ∀ b, .block b ∈ L → Fills lookup (body b) (body' b)) :
    Fills lookup (L.write value body) (L.write value' body') := by
  refine Fills.flatMap fun p hp => ?_
  cases p with
  | literal t => exact hliteral t hp
  | mark name => exact hmark name hp
  | block b => exact hblock b hp

theorem write_congr (h : ∀ b, .block b ∈ L → body b = body' b) :
    L.write value body = L.write value body' := by
  refine flatMap_congr fun p hp => ?_
  cases p with
  | literal t => rfl
  | mark name => rfl
  | block b => exact h b hp

end Parts

/-- Induction along the blocks of a layout. `Plain` holds of what stands between two blocks, and `R`
relates the text of the layout to the text with other texts for the blocks. -/
theorem write_induction {kind : BlockKind} {value : Text → Text} {body : α → Text} {L : Layout α}
    (out : α → Text) (R : Text → Text → Prop) (Plain : Text → Prop) (nil : Plain [])
    (append : ∀ s s', Plain s → Plain s' → Plain (s ++ s'))
    (hliteral : ∀ t, .literal t ∈ L → Plain t) (hmark : ∀ name, .mark name ∈ L → Plain (value name))
    (plain : ∀ s, Plain s → R s s)
    (block : ∀ s b t t', Plain s → .block b ∈ L → R t t' →
      R (s ++ (marked kind (body b) ++ t)) (s ++ (out b ++ t'))) :
    R (L.write value fun b => marked kind (body b)) (L.write value out) := by
  -- What stands in front of the rest of the layout is collected up to the next block.
  suffices h : ∀ s, Plain s → R (s ++ L.write value fun b => marked kind (body b))
      (s ++ L.write value out) from h [] nil
  induction L with
  | nil =>
    intro s hs
    simpa [write] using plain s hs
  | cons p L ih =>
    have ih' := ih (fun t ht => hliteral t (List.mem_cons_of_mem p ht))
      (fun name hname => hmark name (List.mem_cons_of_mem p hname))
      (fun s b t t' hs hb => block s b t t' hs (List.mem_cons_of_mem p hb))
    intro s hs
    rw [write, write, List.flatMap_cons, List.flatMap_cons]
    cases p with
    | literal t =>
      rw [← List.append_assoc, ← List.append_assoc]
      exact ih' (s ++ t) (append s t hs (hliteral t (by simp)))
    | mark name =>
      rw [← List.append_assoc, ← List.append_assoc]
      exact ih' (s ++ value name) (append s _ hs (hmark name (by simp)))
    | block b => exact block s b _ _ hs (by simp) (ih' [] nil)

end Layout

end PubList.Template
