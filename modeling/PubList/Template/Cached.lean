import PubList.Pattern.Cache
import PubList.Template.Render

/-!
# Rendering with kept patterns

Rendering as in `PubList.Template.Render`, except that every pattern is compiled once and kept.
Each function is followed by the equality that ties it to its plain counterpart: started from a
faithful cache both give the same text.
-/

namespace PubList.Template

open PatternCache (Returns returns_pure)

/-! ## Conditions, whatever compiles the patterns -/

section Conditions

variable {R : Type} (compile : Text → Option R) (isMatch : R → Text → Bool)

/-- Whether a value passes a test against the expected text, with the patterns that are kept. -/
def Operator.evaluateCachedWith (op : Operator) (value expected : Text) :
    StateM (PatternCache R) Bool :=
  match op with
  | fits => return (← PatternCache.compile? compile expected).any (isMatch · value)
  | op => return op.evaluateWith compile isMatch value expected

theorem Operator.returns_evaluateCachedWith (op : Operator) (value expected : Text) :
    Returns compile (op.evaluateCachedWith compile isMatch value expected)
      (op.evaluateWith compile isMatch value expected) := by
  cases op with
  | fits => exact (PatternCache.returns_compile? expected).bind (returns_pure _)
  | _ => exact returns_pure _

/-- Whether the condition holds for an entry, with the patterns that are kept. -/
def Conditional.holdsCachedWith (c : Conditional) (e : Entry) : StateM (PatternCache R) Bool :=
  match (e.get? c.field).filter counts with
  | none => return false
  | some value =>
    match c.test with
    | none => return true
    | some (op, expected) => op.evaluateCachedWith compile isMatch value expected

theorem Conditional.returns_holdsCachedWith (c : Conditional) (e : Entry) :
    Returns compile (c.holdsCachedWith compile isMatch e) (c.holdsWith compile isMatch e) := by
  unfold holdsCachedWith holdsWith
  cases (e.get? c.field).filter counts with
  | none => exact returns_pure _
  | some value =>
    cases c.test with
    | none => exact returns_pure _
    | some test => exact Operator.returns_evaluateCachedWith compile isMatch _ _ _

end Conditions

/-! ## Templates -/

/-- A program that keeps patterns. -/
abbrev Cached := StateM (PatternCache Pattern)

/-- What a program returns when it starts without patterns. -/
def Cached.value {α : Type} (x : Cached α) : α := (x .empty).1

theorem Cached.value_eq {α : Type} {x : Cached α} {a : α}
    (h : Returns Pattern.compile? x a) : x.value = a :=
  (h .empty PatternCache.faithful_empty).1

/-- Whether a value passes a test against the expected text. -/
def Operator.evaluateCached (op : Operator) (value expected : Text) : Cached Bool :=
  op.evaluateCachedWith Pattern.compile? Pattern.isMatch value expected

theorem Operator.returns_evaluateCached (op : Operator) (value expected : Text) :
    Returns Pattern.compile? (op.evaluateCached value expected) (op.evaluate value expected) :=
  op.returns_evaluateCachedWith Pattern.compile? Pattern.isMatch value expected

/-- Whether the condition holds for an entry. -/
def Conditional.holdsCached (c : Conditional) (e : Entry) : Cached Bool :=
  c.holdsCachedWith Pattern.compile? Pattern.isMatch e

theorem Conditional.returns_holdsCached (c : Conditional) (e : Entry) :
    Returns Pattern.compile? (c.holdsCached e) (c.holds e) :=
  c.returns_holdsCachedWith Pattern.compile? Pattern.isMatch e

/-- The branch that a conditional chooses for an entry. -/
def Conditional.branchCached (c : Conditional) (e : Entry) : Cached Text :=
  return if ← c.holdsCached e then c.thenPart else c.elsePart

theorem Conditional.returns_branchCached (c : Conditional) (e : Entry) :
    Returns Pattern.compile? (c.branchCached e) (c.branch e) :=
  (c.returns_holdsCached e).bind (returns_pure _)

/-- Resolves conditionals down to the given number of levels; deeper ones stay as they are. -/
def resolveLevelsCached (e : Entry) : (levels : Nat) → Text → Cached Text
  | _, [] => return []
  | levels, '@' :: '?' :: t =>
    match _h : Conditional.read? t with
    | none => return '@' :: '?' :: (← resolveLevelsCached e levels t)
    | some (c, rest) => do
      let resolved ← match levels with
        | 0 => pure c.text
        | inner + 1 => do resolveLevelsCached e inner (← c.branchCached e)
      return resolved ++ (← resolveLevelsCached e levels rest)
  | levels, c :: t => return c :: (← resolveLevelsCached e levels t)
termination_by levels t => (levels, t.length)
decreasing_by
  all_goals simp_wf
  · exact .right _ (by omega)
  · have := Conditional.length_lt_of_read? _h
    exact .right _ (by omega)
  · exact .left _ _ (by omega)
  · exact .right _ (by omega)

theorem returns_resolveLevelsCached (e : Entry) (levels : Nat) (t : Text) :
    Returns Pattern.compile? (resolveLevelsCached e levels t) (resolveLevels e levels t) := by
  fun_induction resolveLevels e levels t with
  | case1 =>
    rw [resolveLevelsCached]
    exact returns_pure _
  | case2 levels t h ih =>
    rw [resolveLevelsCached]
    split
    · exact ih.bind (returns_pure _)
    · next h' => simp [h] at h'
  | case3 levels t c rest h ihInner ihRest =>
    rw [resolveLevelsCached]
    split
    · next h' => simp [h] at h'
    · next h' =>
      cases h.symm.trans h'
      cases levels with
      | zero => exact (returns_pure _).bind (ihRest.bind (returns_pure _))
      | succ inner =>
        exact (c.returns_branchCached e).bind (ihInner.bind (ihRest.bind (returns_pure _)))
  | case4 levels c t h ih =>
    rw [resolveLevelsCached]
    · exact ih.bind (returns_pure _)
    · exact h

/-- Resolves every conditional of a template for an entry. -/
def resolveCached (e : Entry) (t : Text) : Cached Text := resolveLevelsCached e maxDepth t

theorem returns_resolveCached (e : Entry) (t : Text) :
    Returns Pattern.compile? (resolveCached e t) (resolve e t) :=
  returns_resolveLevelsCached e maxDepth t

/-- Renders the body of an entry block for one entry. -/
def renderEntryCached (e : Entry) (t : Text) : Cached Text :=
  return substitute e.get? (← resolveCached e (substitute (entryKeyValue e) t))

theorem returns_renderEntryCached (e : Entry) (t : Text) :
    Returns Pattern.compile? (renderEntryCached e t) (renderEntry e t) :=
  (returns_resolveCached e _).bind (returns_pure _)

/-- Renders the body of an entry block for every entry of a list. -/
def renderEntriesCached (entries : List Entry) (t : Text) : Cached Text :=
  match entries with
  | [] => return []
  | e :: entries => return (← renderEntryCached e t) ++ (← renderEntriesCached entries t)

theorem returns_renderEntriesCached (entries : List Entry) (t : Text) :
    Returns Pattern.compile? (renderEntriesCached entries t)
      (entries.flatMap fun e => renderEntry e t) := by
  induction entries with
  | nil => exact returns_pure _
  | cons e entries ih =>
    rw [List.flatMap_cons]
    exact (returns_renderEntryCached e t).bind (ih.bind (returns_pure _))

/-- Replaces every block by what `expand` makes of its body. -/
def expandBlocksCached (kind : BlockKind) (expand : Text → Cached Text) (t : Text) : Cached Text :=
  match _h : findBlock? kind t with
  | none => return t
  | some b =>
    return b.before ++ (← expand b.body) ++ (← expandBlocksCached kind expand b.after)
termination_by t.length
decreasing_by exact length_after_lt_of_findBlock? _h

theorem returns_expandBlocksCached (kind : BlockKind) {expandCached : Text → Cached Text}
    {expand : Text → Text} (h : ∀ t, Returns Pattern.compile? (expandCached t) (expand t))
    (t : Text) :
    Returns Pattern.compile? (expandBlocksCached kind expandCached t)
      (expandBlocks kind expand t) := by
  fun_induction expandBlocks kind expand t with
  | case1 t hfind =>
    rw [expandBlocksCached]
    split
    · exact returns_pure _
    · next hfind' => simp [hfind] at hfind'
  | case2 t b hfind ih =>
    rw [expandBlocksCached]
    split
    · next hfind' => simp [hfind] at hfind'
    · next hfind' =>
      cases hfind.symm.trans hfind'
      exact (h b.body).bind (ih.bind (returns_pure _))

/-- Renders the body of a group block for one group. -/
def renderGroupCached (key : Text) (id : Nat) (entries : List Entry) (t : Text) : Cached Text :=
  expandBlocksCached .entry (renderEntriesCached entries)
    (substitute (groupValue key id entries.length) t)

theorem returns_renderGroupCached (key : Text) (id : Nat) (entries : List Entry) (t : Text) :
    Returns Pattern.compile? (renderGroupCached key id entries t) (renderGroup key id entries t) :=
  returns_expandBlocksCached .entry (returns_renderEntriesCached entries) _

/-- Renders the body of a group block for groups that are numbered from `id` on. -/
def renderGroupsCached (id : Nat) (groups : List Group) (body : Text) : Cached Text :=
  match groups with
  | [] => return []
  | g :: groups =>
    return (← renderGroupCached g.key id g.entries body) ++
      (← renderGroupsCached (id + 1) groups body)

theorem returns_renderGroupsCached (id : Nat) (groups : List Group) (body : Text) :
    Returns Pattern.compile? (renderGroupsCached id groups body) (renderGroups id groups body) := by
  induction groups generalizing id with
  | nil => exact returns_pure _
  | cons g groups ih =>
    exact (returns_renderGroupCached g.key id g.entries body).bind
      ((ih (id + 1)).bind (returns_pure _))

/-- Renders a template for groups in the order in which they are shown, with an empty cache at the
start. -/
def renderCached (config : Config) (groups : List Group) (t : Text) : Except TemplateError Text :=
  let t := substitute (globalValue config.groupBy groups.length) t
  if config.useGroup then do
    checkBlocks 0 t
    return (expandBlocksCached .group (renderGroupsCached 0 groups) t).value
  else .ok t

/-- Keeping patterns does not change what is rendered. -/
theorem renderCached_eq_render : renderCached = render := by
  funext config groups t
  simp only [renderCached, render]
  rw [Cached.value_eq (returns_expandBlocksCached .group (returns_renderGroupsCached 0 groups) _)]

end PubList.Template
