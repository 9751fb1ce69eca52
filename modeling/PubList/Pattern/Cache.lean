import PubList.Text.Basic

/-!
# Compiled patterns kept

A cache keeps the outcomes of compiling patterns, failures too. When it is full it is emptied
before the next outcome is stored. What compiles the patterns is left open: any function `compile`
that makes something of a text, or nothing if the text is no pattern.

A cache is faithful if it holds true outcomes only; looking patterns up keeps it faithful and gives
what compiling gives.
-/

namespace PubList

/-- The outcomes of compiling patterns. A pattern is compiled to something of type `R`. -/
structure PatternCache (R : Type) where
  /-- Every text with its outcome, the last one first. -/
  stored : List (Text × Option R)

namespace PatternCache

variable {R : Type}

def empty : PatternCache R := ⟨[]⟩

/-- How many outcomes a cache can hold. -/
def limit : Nat := 256

/-- Stores an outcome, and drops all others if there is no room. -/
def insert (cache : PatternCache R) (source : Text) (outcome : Option R) : PatternCache R :=
  ⟨(source, outcome) :: if limit ≤ cache.stored.length then [] else cache.stored⟩

/-- The pattern that a text denotes, compiled only if the cache has no outcome for it. -/
def compile? (compile : Text → Option R) (source : Text) : StateM (PatternCache R) (Option R) :=
  fun cache =>
    match cache.stored.lookup source with
    | some outcome => (outcome, cache)
    | none =>
      let outcome := compile source
      (outcome, cache.insert source outcome)

theorem length_insert_le (cache : PatternCache R) (source : Text) (outcome : Option R) :
    (cache.insert source outcome).stored.length ≤ limit := by
  simp only [insert, List.length_cons]
  split
  · exact Nat.le_of_ble_eq_true rfl
  · omega

/-- What a list of pairs holds for a key is one of its pairs. -/
theorem mem_of_lookup_eq_some {source : Text} {outcome : Option R} :
    {stored : List (Text × Option R)} → stored.lookup source = some outcome →
      (source, outcome) ∈ stored
  | [], h => nomatch h
  | (source', outcome') :: stored, h => by
    simp only [List.lookup_cons] at h
    split at h
    · next heq =>
      cases h
      simp [LawfulBEq.eq_of_beq heq]
    · exact List.mem_cons_of_mem _ (mem_of_lookup_eq_some h)

variable (compile : Text → Option R)

/-- Every outcome is that of compiling its text. -/
def Faithful (cache : PatternCache R) : Prop :=
  ∀ stored ∈ cache.stored, stored.2 = compile stored.1

/-- From every faithful cache on, the program returns `a` and leaves a faithful cache. -/
def Returns {α : Type} (x : StateM (PatternCache R) α) (a : α) : Prop :=
  ∀ cache : PatternCache R, cache.Faithful compile → (x cache).1 = a ∧ (x cache).2.Faithful compile

variable {compile}

theorem faithful_empty : (empty : PatternCache R).Faithful compile := fun _ h => nomatch h

theorem Faithful.insert {cache : PatternCache R} (h : cache.Faithful compile) (source : Text) :
    (cache.insert source (compile source)).Faithful compile := by
  intro stored hmem
  simp only [PatternCache.insert, List.mem_cons] at hmem
  rcases hmem with rfl | hmem
  · rfl
  · split at hmem
    · nomatch hmem
    · exact h stored hmem

theorem returns_pure {α : Type} (a : α) : Returns compile (pure a) a := fun _ h => ⟨rfl, h⟩

theorem Returns.bind {α β : Type} {x : StateM (PatternCache R) α} {a : α}
    {f : α → StateM (PatternCache R) β} {b : β} (hx : Returns compile x a)
    (hf : Returns compile (f a) b) : Returns compile (x >>= f) b := by
  intro cache h
  obtain ⟨hvalue, hcache⟩ := hx cache h
  have := hf (x cache).2 hcache
  rw [← hvalue] at this
  exact this

theorem returns_compile? (source : Text) :
    Returns compile (compile? compile source) (compile source) := by
  intro cache h
  simp only [compile?]
  split
  · next outcome hfind => exact ⟨h _ (mem_of_lookup_eq_some hfind), h⟩
  · exact ⟨rfl, h.insert source⟩

end PatternCache

end PubList
