import TypeBridge.Proofs.Render.FieldLine
/-!
# What writing reads of the targets and the roots

Writing the file for a list of targets never reads their origin fields itself: only the hooks
can. The roots are read only as the sorted set of their modules. So with hooks that ignore
origins, targets that differ in origin only give the same file, and two orders of the same
roots give the same file.
-/

namespace TypeBridge

theorem pairwise_mergeSort_key {α : Type} (key : α → String) (l : List α) :
    (l.mergeSort fun a b => decide (key a ≤ key b)).Pairwise fun a b => key a ≤ key b := by
  have htrans : ∀ a b c : α, decide (key a ≤ key b) = true → decide (key b ≤ key c) = true →
      decide (key a ≤ key c) = true := by
    simp only [decide_eq_true_eq]
    exact fun _ _ _ => String.le_trans
  have htotal : ∀ a b : α, (decide (key a ≤ key b) || decide (key b ≤ key a)) = true := by
    intro a b
    simpa using String.le_total (key a) (key b)
  simpa using List.pairwise_mergeSort htrans htotal l

theorem sortedSet_perm {xs ys : List String} (h : xs.Perm ys) : sortedSet xs = sortedSet ys := by
  unfold sortedSet
  congr 1
  refine List.Perm.eq_of_pairwise ?_ (pairwise_mergeSort_key id xs) (pairwise_mergeSort_key id ys) ?_
  · exact fun a b _ _ hab hba => String.le_antisymm hab hba
  · exact (List.mergeSort_perm xs _).trans (h.trans (List.mergeSort_perm ys _).symm)

/-- Hooks that do not read the origin of a target: each definition hook answers the same for a
target in any origin, and each file hook the same for the emitted targets in any origin. -/
structure Hooks.OriginBlind (h : Hooks) : Prop where
  definition : ∀ f ∈ h.definitionPre ++ h.definitionPost, ∀ (t : Target) o, f (t.withOrigin o) = f t
  file : ∀ f ∈ h.filePre ++ h.filePost, ∀ (fs : FileScope) o,
    f { fs with targets := fs.targets.map (Target.withOrigin o) } = f fs

namespace Emitter

variable (e : Emitter)

theorem hookTexts_congr {α : Type} {hooks : List (α → Option String)} {x y : α}
    (h : ∀ f ∈ hooks, f x = f y) : hookTexts hooks x = hookTexts hooks y := by
  unfold hookTexts
  rw [List.filterMap_congr h]

theorem definition_withOrigin (hb : e.hooks.OriginBlind) (scope : List String) (t : Target)
    (o : TargetOrigin) : e.definition scope (t.withOrigin o) = e.definition scope t := by
  have hpre : hookTexts e.hooks.definitionPre (t.withOrigin o) = hookTexts e.hooks.definitionPre t :=
    hookTexts_congr fun f hf => hb.definition f (List.mem_append_left _ hf) t o
  have hpost : hookTexts e.hooks.definitionPost (t.withOrigin o) = hookTexts e.hooks.definitionPost t :=
    hookTexts_congr fun f hf => hb.definition f (List.mem_append_right _ hf) t o
  -- the bodies read the name, kind, members, variables and supertypes only
  simp only [definition, hpre, hpost]
  rfl

theorem document_withOrigin (hb : e.hooks.OriginBlind) (roots : List String) (types : List Target)
    (o : TargetOrigin) : e.document roots (types.map (Target.withOrigin o)) = e.document roots types := by
  have hscope : (types.map (Target.withOrigin o)).map Target.simple = types.map Target.simple := by
    simp [Function.comp_def]
  have hemitted : (types.map (Target.withOrigin o)).filter (e.emits roots) =
      (types.filter (e.emits roots)).map (Target.withOrigin o) := by
    rw [List.filter_map]
    rfl
  have hdefs : ∀ ts : List Target, (ts.map (Target.withOrigin o)).mapM (e.definition (types.map Target.simple)) =
      ts.mapM (e.definition (types.map Target.simple)) := by
    intro ts
    rw [List.mapM_map]
    congr 1
    funext t
    exact e.definition_withOrigin hb _ t o
  have hfile : ∀ hooks, (∀ f ∈ hooks, f ∈ e.hooks.filePre ++ e.hooks.filePost) → ∀ (ts : List Target) rm ms,
      hookTexts hooks ({ targets := ts.map (Target.withOrigin o), rootModules := rm, modules := ms } : FileScope) =
        hookTexts hooks ({ targets := ts, rootModules := rm, modules := ms } : FileScope) :=
    fun hooks hsub ts rm ms => hookTexts_congr fun f hf => hb.file f (hsub f hf) ⟨ts, rm, ms⟩ o
  have hmodules : ∀ ts : List Target,
      (ts.map (Target.withOrigin o)).map (fun t => Path.moduleOrEmpty t.name) = ts.map fun t => Path.moduleOrEmpty t.name := by
    simp [Function.comp_def]
  simp only [document, hscope, hemitted, hdefs, hmodules,
    hfile e.hooks.filePre (fun f hf => List.mem_append_left _ hf),
    hfile e.hooks.filePost (fun f hf => List.mem_append_right _ hf)]

theorem emits_perm {roots roots' : List String} (h : roots'.Perm roots) : e.emits roots' = e.emits roots := by
  funext t
  simp only [emits, sortedSet_perm (h.map Path.moduleOrEmpty)]

theorem document_perm {roots roots' : List String} (h : roots'.Perm roots) (types : List Target) :
    e.document roots' types = e.document roots types := by
  simp only [document, e.emits_perm h, sortedSet_perm (h.map Path.moduleOrEmpty)]

end Emitter

end TypeBridge
