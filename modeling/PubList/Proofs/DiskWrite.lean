import PubList.Command.Disk

/-!
# Writing to a disk

A text that is written is read back at every path that leads to the same place, and nothing changes
at any other place (`read_of_write`, `find?_of_write_of_ne`).

A path is followed through directories only, and a write puts its text where no directory is, into
a directory that exists. So it neither makes nor unmakes a directory, and every path leads afterwards
where it led before (`place?_of_write`).
-/

namespace PubList.Disk

/-! ## Places -/

theorem at?_cons (d : Disk) (name : Text) (parent : List Text) :
    d.at? (name :: parent) = d.files.lookup (name :: parent) := rfl

theorem lookup_filter_of_ne {place other : List Text} (h : other ≠ place)
    (files : List (List Text × File)) :
    (files.filter (·.1 ≠ place)).lookup other = files.lookup other := by
  induction files with
  | nil => rfl
  | cons f files ih =>
    obtain ⟨p, file⟩ := f
    by_cases hp : p = place
    · rw [List.filter_cons_of_neg (by simp [hp]), ih, List.lookup_cons,
        beq_eq_false_iff_ne.2 (hp ▸ h)]
    · rw [List.filter_cons_of_pos (by simpa using hp), List.lookup_cons, List.lookup_cons, ih]

/-- A file that is put into a directory is where it was put, and all else is where it was. -/
theorem at?_put {d : Disk} {name : Text} {parent : List Text}
    (hparent : (d.at? parent).isSome) (file : File) (place : List Text) :
    (d.put file (name :: parent)).at? place =
      if place = name :: parent then some file else d.at? place := by
  cases place with
  | nil => rfl
  | cons n p =>
    have hput : d.put file (name :: parent) =
        ⟨(name :: parent, file) :: d.files.filter (·.1 ≠ name :: parent)⟩ := by
      rw [put, if_pos hparent]
    rw [hput, at?_cons, at?_cons]
    by_cases heq : n :: p = name :: parent
    · rw [if_pos heq, heq, List.lookup_cons_self]
    · rw [if_neg heq, List.lookup_cons, beq_eq_false_iff_ne.2 heq]
      exact lookup_filter_of_ne heq d.files

/-! ## Paths -/

/-- Where a path leads depends only on what the directories are. -/
theorem follow?_congr {d d' : Disk}
    (h : ∀ place, d'.at? place = some .directory ↔ d.at? place = some .directory)
    (place names : List Text) : d'.follow? place names = d.follow? place names := by
  induction names generalizing place with
  | nil => rfl
  | cons name names ih =>
    simp only [follow?, ne_eq, h place, ih]

theorem place?_congr {d d' : Disk}
    (h : ∀ place, d'.at? place = some .directory ↔ d.at? place = some .directory) (path : Text) :
    d'.place? path = d.place? path := by
  rw [place?, place?, follow?_congr h]

/-- All that lies above a place is a directory. -/
def InDirectories (d : Disk) (place : List Text) : Prop :=
  ∀ name above, name :: above <:+ place → d.at? above = some .directory

theorem InDirectories.cons {d : Disk} {place : List Text} (h : d.InDirectories place)
    (hplace : d.at? place = some .directory) (name : Text) : d.InDirectories (name :: place) := by
  intro n above hsuffix
  rcases List.suffix_cons_iff.1 hsuffix with heq | hsuffix
  · cases heq
    exact hplace
  · exact h n above hsuffix

/-- A path leads through directories. -/
theorem inDirectories_of_follow? {d : Disk} {place target names : List Text}
    (hplace : d.InDirectories place) (h : d.follow? place names = some target) :
    d.InDirectories target := by
  induction names generalizing place with
  | nil =>
    cases h
    exact hplace
  | cons name names ih =>
    unfold follow? at h
    split at h
    · cases h
    · rename_i hdirectory
      split at h
      · exact ih hplace h
      · split at h
        · split at h
          · cases h
          · exact ih (fun n above hsuffix => hplace n above (hsuffix.trans (List.suffix_cons _ _))) h
        · exact ih (hplace.cons (Decidable.not_not.1 hdirectory) name) h

theorem inDirectories_of_place? {d : Disk} {path : Text} {place : List Text}
    (h : d.place? path = some place) : d.InDirectories place := by
  rw [place?] at h
  split at h
  · cases h
  · exact inDirectories_of_follow? (fun _ _ hsuffix => by simp at hsuffix) h

/-! ## Writing -/

/-- A write that succeeds puts its text into a directory that exists, where no directory is. -/
theorem exists_of_write {d d' : Disk} {path text : Text} (h : d.write path text = .ok d') :
    ∃ name parent, d.place? path = some (name :: parent) ∧
      d.at? (name :: parent) ≠ some .directory ∧ d.at? parent = some .directory ∧
      d' = d.put (.text text) (name :: parent) := by
  rw [write] at h
  split at h
  · cases h
  · rename_i place hplace
    split at h
    · cases h
    · rename_i hfile
      cases h
      cases place with
      | nil => exact absurd rfl hfile
      | cons name parent =>
        exact ⟨name, parent, hplace, hfile,
          inDirectories_of_place? hplace name parent (List.suffix_refl _), rfl⟩

/-- What is where after a write: the text at its place, and all else as it was. -/
theorem at?_of_write {d d' : Disk} {path text : Text} (h : d.write path text = .ok d')
    (place : List Text) :
    d'.at? place = if d.place? path = some place then some (.text text) else d.at? place := by
  obtain ⟨name, parent, hplace, -, hparent, rfl⟩ := exists_of_write h
  rw [at?_put (by rw [hparent]; rfl), hplace]
  simp only [Option.some.injEq, eq_comm]

/-- After a write all paths lead where they led before. -/
theorem place?_of_write {d d' : Disk} {path text : Text} (h : d.write path text = .ok d')
    (other : Text) : d'.place? other = d.place? other := by
  refine place?_congr (fun place => ?_) other
  obtain ⟨name, parent, hplace, hfile, -⟩ := exists_of_write h
  rw [at?_of_write h, hplace]
  split
  · rename_i heq
    cases heq
    simp [hfile]
  · rfl

/-- A path that leads where the text was written leads to the text. -/
theorem find?_of_write {d d' : Disk} {path text : Text} (h : d.write path text = .ok d')
    {other : Text} (hother : d.place? other = d.place? path) :
    d'.find? other = some (.text text) := by
  obtain ⟨name, parent, hplace, -⟩ := exists_of_write h
  rw [find?, place?_of_write h, hother, hplace, Option.bind_some, at?_of_write h, if_pos hplace]

theorem read_of_write {d d' : Disk} {path text : Text} (h : d.write path text = .ok d')
    {other : Text} (hother : d.place? other = d.place? path) : d'.read other = .ok text := by
  rw [read, find?_of_write h hother]

/-- A path that leads elsewhere leads to what it led to. -/
theorem find?_of_write_of_ne {d d' : Disk} {path text : Text} (h : d.write path text = .ok d')
    {other : Text} (hother : d.place? other ≠ d.place? path) : d'.find? other = d.find? other := by
  rw [find?, find?, place?_of_write h]
  cases hplace : d.place? other with
  | none => rfl
  | some place =>
    rw [Option.bind_some, Option.bind_some, at?_of_write h, if_neg]
    exact fun hpath => hother (hplace.trans hpath.symm)

end PubList.Disk
