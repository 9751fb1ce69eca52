import Mathlib.Data.List.Dedup
import PubList.Template.Cached

/-!
# Patterns that are kept

A program changes a cache by looking patterns up (`LooksUp`), and a look-up changes it in one way only:
if it finds nothing it stores an outcome, and drops all others before if there is no room
(`compile?_of_mem`, `compile?_of_not_mem`). So three things hold of a cache at any time (`Sound`): an
outcome is that of compiling its text, no text has two of them, and there are at most `limit`. A look-up
keeps them and gives what compiling gives (`Sound.compile?`), and from there on so do any number of
look-ups and any conditions behind them (`keptPatterns_transparent`). What compiles the patterns, and
what looks for them in a value, can be any functions.

The cache does keep patterns. It holds the texts of the most recent look-ups, and it holds all texts that
have been looked up as long as there are no more than `limit` different ones (`Recalls`).
-/

namespace PubList

namespace PatternCache

variable {R : Type} {compile : Text → Option R}

/-- The texts whose outcomes are stored. -/
def sources (cache : PatternCache R) : List Text := cache.stored.map Prod.fst

/-- What holds of a cache at any time. -/
structure Sound (compile : Text → Option R) (cache : PatternCache R) : Prop where
  faithful : cache.Faithful compile
  nodup : cache.sources.Nodup
  length_le : cache.sources.length ≤ limit

theorem sound_empty : (empty : PatternCache R).Sound compile :=
  ⟨faithful_empty, List.nodup_nil, Nat.zero_le _⟩

/-! ## One look-up -/

section LookUp

variable {cache : PatternCache R} {source : Text}

theorem sources_insert (cache : PatternCache R) (source : Text) (outcome : Option R) :
    (cache.insert source outcome).sources =
      source :: if limit ≤ cache.sources.length then [] else cache.sources := by
  simp only [sources, insert, List.map_cons, List.length_map]
  split <;> rfl

theorem lookup_eq_none_iff : cache.stored.lookup source = none ↔ source ∉ cache.sources := by
  simp only [List.lookup_eq_none_iff, bne_iff_ne, sources, List.mem_map, not_exists, not_and]
  exact forall₂_congr fun _ _ => ne_comm

/-- A look-up that finds an outcome gives it and leaves the cache as it is. -/
theorem compile?_of_mem (compile : Text → Option R) (h : source ∈ cache.sources) :
    ∃ outcome, (source, outcome) ∈ cache.stored ∧
      compile? compile source cache = (outcome, cache) := by
  have hfind : cache.stored.lookup source ≠ none := fun hnone => lookup_eq_none_iff.1 hnone h
  obtain ⟨outcome, hfind⟩ := Option.ne_none_iff_exists'.1 hfind
  exact ⟨outcome, mem_of_lookup_eq_some hfind, by simp only [compile?, hfind]⟩

/-- A look-up that finds nothing compiles the text and stores the outcome. -/
theorem compile?_of_not_mem (h : source ∉ cache.sources) : compile? compile source cache =
    (compile source, cache.insert source (compile source)) := by
  simp only [compile?, lookup_eq_none_iff.2 h]

theorem Sound.insert (h : cache.Sound compile) (hnew : source ∉ cache.sources) :
    (cache.insert source (compile source)).Sound compile where
  faithful := h.faithful.insert source
  nodup := by
    rw [sources_insert]
    split
    · exact List.nodup_singleton source
    · exact List.nodup_cons.2 ⟨hnew, h.nodup⟩
  length_le := by
    rw [sources, List.length_map]
    exact length_insert_le cache source _

/-- **A look-up** gives what compiling gives, and leaves a sound cache. -/
theorem Sound.compile? (h : cache.Sound compile) (source : Text) :
    (compile? compile source cache).1 = compile source ∧
      (compile? compile source cache).2.Sound compile := by
  by_cases hmem : source ∈ cache.sources
  · obtain ⟨outcome, hstored, heq⟩ := compile?_of_mem compile hmem
    rw [heq]
    exact ⟨h.faithful _ hstored, h⟩
  · rw [compile?_of_not_mem hmem]
    exact ⟨rfl, h.insert hmem⟩

end LookUp

/-! ## Programs -/

/-- The cache behind look-ups one after the other. -/
def after (compile : Text → Option R) (cache : PatternCache R) (sources : List Text) :
    PatternCache R :=
  sources.foldl (fun cache source => (compile? compile source cache).2) cache

theorem Sound.after {cache : PatternCache R} (h : cache.Sound compile) (sources : List Text) :
    (cache.after compile sources).Sound compile := by
  induction sources generalizing cache with
  | nil => exact h
  | cons source sources ih => exact ih (h.compile? source).2

/-- Whatever the program does to a cache, it does it by looking patterns up. -/
def LooksUp (compile : Text → Option R) {α : Type} (x : StateM (PatternCache R) α) : Prop :=
  ∀ cache : PatternCache R, ∃ sources, (x cache).2 = cache.after compile sources

theorem looksUp_pure {α : Type} (a : α) : LooksUp compile (pure a) := fun _ => ⟨[], rfl⟩

theorem LooksUp.bind {α β : Type} {x : StateM (PatternCache R) α}
    {f : α → StateM (PatternCache R) β} (hx : LooksUp compile x)
    (hf : ∀ a, LooksUp compile (f a)) : LooksUp compile (x >>= f) := by
  intro cache
  obtain ⟨sources, hfirst⟩ := hx cache
  obtain ⟨sources', hsecond⟩ := hf (x cache).1 (x cache).2
  refine ⟨sources ++ sources', ?_⟩
  rw [after, List.foldl_append]
  exact hsecond.trans (congrArg (PatternCache.after compile · sources') hfirst)

theorem looksUp_compile? (source : Text) : LooksUp compile (compile? compile source) :=
  fun _ => ⟨[source], rfl⟩

section MapM

variable {α β : Type} {f : α → StateM (PatternCache R) β}

/-- A list of programs, one after the other. -/
theorem mapM_cons_apply (a : α) (l : List α) (cache : PatternCache R) : (a :: l).mapM f cache =
    ((f a cache).1 :: (l.mapM f (f a cache).2).1, (l.mapM f (f a cache).2).2) := by
  rw [List.mapM_cons]
  rfl

theorem LooksUp.mapM (h : ∀ a, LooksUp compile (f a)) (l : List α) :
    LooksUp compile (l.mapM f) := by
  induction l with
  | nil => exact looksUp_pure []
  | cons a l ih =>
    rw [List.mapM_cons]
    exact (h a).bind fun _ => ih.bind fun _ => looksUp_pure _

theorem Returns.mapM {g : α → β} (h : ∀ a, Returns compile (f a) (g a)) (l : List α) :
    Returns compile (l.mapM f) (l.map g) := by
  induction l with
  | nil => exact returns_pure []
  | cons a l ih =>
    rw [List.mapM_cons]
    exact (h a).bind (ih.bind (returns_pure _))

end MapM

theorem mapM_compile?_snd (sources : List Text) (cache : PatternCache R) :
    (sources.mapM (compile? compile) cache).2 = cache.after compile sources := by
  induction sources generalizing cache with
  | nil => rfl
  | cons source sources ih =>
    rw [mapM_cons_apply]
    exact ih _

/-- A program that returns `a` and only looks patterns up keeps a cache sound. -/
theorem Sound.of_returns {α : Type} {x : StateM (PatternCache R) α} {a : α}
    {cache : PatternCache R} (h : cache.Sound compile) (hx : Returns compile x a)
    (hlooks : LooksUp compile x) : (x cache).1 = a ∧ (x cache).2.Sound compile := by
  obtain ⟨sources, hsources⟩ := hlooks cache
  exact ⟨(hx cache h.faithful).1, hsources ▸ h.after sources⟩

/-! ## What is kept -/

/-- Of the texts that have been looked up, the cache holds the most recent ones: all of them, unless
there are more than `limit` different ones. -/
structure Recalls (cache : PatternCache R) (sources recent : List Text) : Prop where
  suffix : recent <:+ sources
  mem_sources_iff : ∀ source, source ∈ cache.sources ↔ source ∈ recent
  all_or_full : recent = sources ∨ limit < sources.dedup.length

theorem length_le_length_dedup {l m : List Text} (hl : l.Nodup) (h : l ⊆ m) :
    l.length ≤ m.dedup.length :=
  hl.length_le_of_subset fun _ hmem => List.mem_dedup.2 (h hmem)

/-- One look-up more is recalled, and makes the cache forget the others only if it is full. -/
theorem Recalls.compile? {cache : PatternCache R} {sources recent : List Text}
    (hcache : cache.Sound compile) (h : Recalls cache sources recent) (source : Text) :
    ∃ recent', Recalls (compile? compile source cache).2 (sources ++ [source]) recent' := by
  have hsub : sources ⊆ sources ++ [source] := List.subset_append_left _ _
  -- Unless the cache is emptied, the recent look-ups are one more.
  have hmore {cache' : PatternCache R}
      (hmem : ∀ s, s ∈ cache'.sources ↔ s ∈ cache.sources ∨ s = source) :
      Recalls cache' (sources ++ [source]) (recent ++ [source]) := by
    refine ⟨(List.suffix_append_inj_of_length_eq rfl).2 ⟨h.suffix, rfl⟩, fun s => ?_, ?_⟩
    · rw [hmem, h.mem_sources_iff, List.mem_append, List.mem_singleton]
    · refine h.all_or_full.imp (congrArg (· ++ [source])) fun hfull => Nat.lt_of_lt_of_le hfull ?_
      exact length_le_length_dedup (List.nodup_dedup _) fun s hs => hsub (List.mem_dedup.1 hs)
  by_cases hmem : source ∈ cache.sources
  · obtain ⟨outcome, -, heq⟩ := compile?_of_mem compile hmem
    refine ⟨_, hmore fun s => ?_⟩
    rw [heq, iff_self_or]
    rintro rfl
    exact hmem
  · rw [compile?_of_not_mem hmem]
    by_cases hfull : limit ≤ cache.sources.length
    · refine ⟨[source], List.suffix_append _ _, fun s => ?_, .inr ?_⟩
      · rw [sources_insert, if_pos hfull]
      · -- The texts that are dropped and the new one have all been looked up.
        have hdropped : source :: cache.sources ⊆ sources ++ [source] := by
          refine List.cons_subset.2 ⟨List.mem_append_right _ List.mem_cons_self, fun s hs => ?_⟩
          exact hsub (h.suffix.subset ((h.mem_sources_iff s).1 hs))
        exact Nat.lt_of_lt_of_le (Nat.lt_succ_of_le hfull)
          (length_le_length_dedup (List.nodup_cons.2 ⟨hmem, hcache.nodup⟩) hdropped)
    · refine ⟨_, hmore fun s => ?_⟩
      rw [sources_insert, if_neg hfull, List.mem_cons, or_comm]

/-- What the cache holds behind any look-ups. -/
theorem exists_recalls (sources : List Text) :
    ∃ recent, Recalls (empty.after compile sources) sources recent := by
  -- The texts that have been looked up already are a first part of the list.
  suffices h : ∀ rest before recent (cache : PatternCache R), cache.Sound compile →
      Recalls cache before recent →
        ∃ recent', Recalls (cache.after compile rest) (before ++ rest) recent' from
    h sources [] [] empty sound_empty ⟨List.suffix_rfl, fun _ => Iff.rfl, .inl rfl⟩
  intro rest
  induction rest with
  | nil =>
    intro before recent cache _ h
    exact ⟨recent, by rwa [List.append_nil]⟩
  | cons source rest ih =>
    intro before recent cache hcache h
    obtain ⟨recent', h'⟩ := h.compile? hcache source
    rw [List.append_cons]
    exact ih _ recent' _ (hcache.compile? source).2 h'

end PatternCache

namespace Template

open PatternCache (LooksUp looksUp_pure looksUp_compile?)

/-! ## Conditions -/

section Conditions

variable {R : Type} (compile : Text → Option R) (isMatch : R → Text → Bool)

theorem Operator.looksUp_evaluateCachedWith (op : Operator) (value expected : Text) :
    LooksUp compile (op.evaluateCachedWith compile isMatch value expected) := by
  cases op with
  | fits => exact (looksUp_compile? expected).bind fun _ => looksUp_pure _
  | _ => exact looksUp_pure _

theorem Conditional.looksUp_holdsCachedWith (c : Conditional) (e : Entry) :
    LooksUp compile (c.holdsCachedWith compile isMatch e) := by
  unfold holdsCachedWith
  cases (e.get? c.field).filter counts with
  | none => exact looksUp_pure _
  | some value =>
    cases c.test with
    | none => exact looksUp_pure _
    | some test => exact Operator.looksUp_evaluateCachedWith compile isMatch _ _ _

/-- **Kept patterns make no difference**, whatever compiles them. Let any texts be looked up one after
the other, from the empty cache on. Every look-up gives what compiling its text gives. The cache behind
them is sound, so that each of its outcomes is that of compiling the text and there are at most `limit`
of them, and it holds the texts of the most recent look-ups. Whatever conditions are then evaluated,
each of them has the outcome that it has by itself, and the cache is sound again. -/
theorem keptPatterns_transparent (sources : List Text) :
    let outcomes := (sources.mapM (PatternCache.compile? compile) PatternCache.empty).1
    let cache := (sources.mapM (PatternCache.compile? compile) PatternCache.empty).2
    outcomes = sources.map compile ∧
      (∀ stored ∈ cache.stored, stored.2 = compile stored.1) ∧
      cache.sources.Nodup ∧ cache.stored.length ≤ PatternCache.limit ∧
      (∃ recent, cache.Recalls sources recent) ∧
      ∀ conditions : List (Conditional × Entry),
        let tested := conditions.mapM (fun p => p.1.holdsCachedWith compile isMatch p.2) cache
        tested.1 = conditions.map (fun p => p.1.holdsWith compile isMatch p.2) ∧
          tested.2.Sound compile := by
  intro outcomes cache
  have hcache : cache = PatternCache.empty.after compile sources :=
    PatternCache.mapM_compile?_snd _ _
  have hsound : cache.Sound compile := hcache ▸ PatternCache.sound_empty.after sources
  refine ⟨?_, hsound.faithful, hsound.nodup, ?_, ?_, fun conditions => ?_⟩
  · exact (PatternCache.Returns.mapM PatternCache.returns_compile? sources _
      PatternCache.faithful_empty).1
  · exact List.length_map Prod.fst ▸ hsound.length_le
  · rw [hcache]
    exact PatternCache.exists_recalls sources
  · exact hsound.of_returns
      (.mapM (fun p => p.1.returns_holdsCachedWith compile isMatch p.2) conditions)
      (.mapM (fun p => p.1.looksUp_holdsCachedWith compile isMatch p.2) conditions)

end Conditions

/-- A text that is no pattern, looked up before and after one that is, is stored once like any other. The
two tests that are then made have their own outcomes. -/
theorem keptPatterns_transparent_repeated :
    let lookedUp := ["(".toList, "^x$".toList, "(".toList].mapM
      (PatternCache.compile? Pattern.compile?) .empty
    let e : Entry := ⟨['a'], [("title".toList, ['x'])]⟩
    let test (pattern : Text) : Conditional := ⟨"title".toList, some (.fits, pattern), []⟩
    lookedUp.1.map Option.isSome = [false, true, false] ∧
      lookedUp.2.sources = ["^x$".toList, "(".toList] ∧
      ([(test "(".toList, e), (test "^x$".toList, e)].mapM
        (fun p => p.1.holdsCached p.2) lookedUp.2).1 = [false, true] := by
  intro lookedUp e test
  obtain ⟨houtcomes, -, -, -, -, htests⟩ := keptPatterns_transparent Pattern.compile?
    Pattern.isMatch ["(".toList, "^x$".toList, "(".toList]
  refine ⟨?_, by decide +kernel, ?_⟩
  · rw [houtcomes]
    decide +kernel
  · refine (htests _).1.trans ?_
    decide +kernel

end Template

end PubList
