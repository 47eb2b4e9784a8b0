import TypeBridge.Proofs.Discovery.Steps
import TypeBridge.Generator
/-!
# Each simple name is generated once

A step that returns a target commits its simple name, which was not in scope, and every other
step leaves scope alone; so resolving roots one after another never produces a simple name
twice, and collecting the targets by simple name keeps all of them.
-/

namespace TypeBridge

/-- The scope `after` is the scope `before` grown by exactly the simple names of `ts`, each of
them new and none twice. -/
structure ScopeGrowth (before : List String) (ts : List Target) (after : List String) : Prop where
  nodup : (ts.map Target.simple).Nodup
  fresh : ∀ t ∈ ts, t.simple ∉ before
  scope : ∀ x, x ∈ after ↔ x ∈ before ∨ x ∈ ts.map Target.simple

namespace ScopeGrowth

theorem refl {before after : List String} (h : after = before) : ScopeGrowth before [] after :=
  ⟨List.nodup_nil, by simp, by simp [h]⟩

theorem trans {s₀ s₁ s₂ : List String} {ts₁ ts₂ : List Target} (h₁ : ScopeGrowth s₀ ts₁ s₁)
    (h₂ : ScopeGrowth s₁ ts₂ s₂) : ScopeGrowth s₀ (ts₁ ++ ts₂) s₂ where
  nodup := by
    rw [List.map_append, List.nodup_append]
    refine ⟨h₁.nodup, h₂.nodup, ?_⟩
    intro a ha b hb hab
    obtain ⟨t, ht, rfl⟩ := List.mem_map.mp hb
    exact h₂.fresh t ht ((h₁.scope _).mpr (.inr (hab ▸ ha)))
  fresh := by
    intro t ht
    rcases List.mem_append.mp ht with ht | ht
    · exact h₁.fresh t ht
    · intro hs
      exact h₂.fresh t ht ((h₁.scope _).mpr (.inl hs))
  scope := by
    intro x
    rw [h₂.scope, h₁.scope, List.map_append, List.mem_append, or_assoc]

end ScopeGrowth

namespace Discovery

theorem process_scopeGrowth (r : Registry) (d : Decl) (s : Discovery) :
    ScopeGrowth s.scope (process r d s).1.toList (process r d s).2.scope := by
  rcases process_cases r d s with
    ⟨_, hnone, hskip | ⟨ex, -, -, -, herr⟩⟩ | ⟨_, _, ⟨-, hp⟩ | ⟨rej, -, -, hp⟩⟩ | ⟨t, hout, ht, hp⟩
  · rw [hnone, hskip]
    exact .refl rfl
  · rw [hnone, herr]
    exact .refl rfl
  · rw [hp]
    exact .refl rfl
  · rw [hp]
    exact .refl (by simp)
  · rw [hp]
    have hname : t.simple = d.simple := by
      simp [Target.simple, Decl.simple, Target.assembled?_name r d ht]
    refine ⟨by simp, ?_, ?_⟩
    · intro t' ht'
      have heq : t' = t := by simpa using ht'
      subst heq
      rw [hname]
      exact hout
    · intro x
      simp [mem_addToScope_scope, hname, Decl.simple]

theorem visit_scopeGrowth (r : Registry) (e : String × String) (s : Discovery) :
    ScopeGrowth s.scope (visit r e s).1.toList (visit r e s).2.scope := by
  simp only [visit]
  split
  · exact .refl rfl
  · split
    · exact .refl rfl
    · rename_i d _
      exact process_scopeGrowth r d { s with pending := s.pending.erase e.1 }

theorem drainSnapshot_scopeGrowth (r : Registry) (L : Keyed String) (s : Discovery) :
    ScopeGrowth s.scope (drainSnapshot r L [] s).1 (drainSnapshot r L [] s).2.scope := by
  induction L generalizing s with
  | nil => exact .refl rfl
  | cons e rest ih =>
    rw [drainSnapshot_cons, drainSnapshot_acc, List.nil_append]
    exact (visit_scopeGrowth r e s).trans (ih (visit r e s).2)

theorem drain_scopeGrowth (r : Registry) (fuel : Nat) (s : Discovery) :
    ScopeGrowth s.scope (drain r fuel [] s).1 (drain r fuel [] s).2.scope := by
  induction fuel generalizing s with
  | zero => exact .refl rfl
  | succ fuel ih =>
    by_cases hq : s.pending.isEmpty = true
    · simp only [drain, hq, if_true]
      exact .refl rfl
    · simp only [drain, hq]
      rw [drain_acc]
      exact (drainSnapshot_scopeGrowth r s.pending s).trans (ih (drainSnapshot r s.pending [] s).2)

theorem rootStep_scopeGrowth (r : Registry) (root : String) (s : Discovery) :
    ScopeGrowth s.scope (rootStep r root s).1 (rootStep r root s).2.scope := by
  cases hl : r.lookup? root with
  | some d =>
    simp only [rootStep, hl]
    exact process_scopeGrowth r d { s with mode := .explicitRoot }
  | none =>
    simp only [rootStep, hl]
    exact .refl (by simp)

theorem resolveRoot_scopeGrowth (r : Registry) (root : String) (s : Discovery) :
    ScopeGrowth s.scope (resolveRoot r root s).1 (resolveRoot r root s).2.scope := by
  rw [resolveRoot_eq, drain_acc]
  exact (rootStep_scopeGrowth r root s).trans
    (drain_scopeGrowth r (r.size + 2) { (rootStep r root s).2 with mode := .transitive })

theorem resolveAll_scopeGrowth (r : Registry) (roots : List String) (s : Discovery) :
    ScopeGrowth s.scope (resolveAll r roots [] s).1 (resolveAll r roots [] s).2.scope := by
  induction roots generalizing s with
  | nil => exact .refl rfl
  | cons root rest ih =>
    simp only [resolveAll, List.nil_append]
    rw [resolveAll_acc]
    exact (resolveRoot_scopeGrowth r root s).trans (ih (resolveRoot r root s).2)

end Discovery

namespace Keyed

variable {α : Type}

theorem foldl_upsert_of_nodup (xs acc : Keyed α) (h : (acc ++ xs).keys.Nodup) :
    xs.foldl (fun m e => m.upsert e.1 e.2) acc = acc ++ xs := by
  induction xs generalizing acc with
  | nil => simp
  | cons x xs ih =>
    have hx : x.1 ∉ acc.keys := by
      intro hx
      simp only [keys_append, keys_cons, List.nodup_append] at h
      exact h.2.2 x.1 hx x.1 List.mem_cons_self rfl
    have hc : acc.contains x.1 = false := Bool.eq_false_iff.mpr (mt (contains_iff acc x.1).mp hx)
    have hup : acc.upsert x.1 x.2 = acc ++ [x] := by simp [upsert, hc]
    rw [List.foldl_cons, hup, ih (acc ++ [x]) (by simpa using h)]
    simp

theorem ofListLast_of_nodup (xs : Keyed α) (h : xs.keys.Nodup) : ofListLast xs = xs := by
  have hfold := foldl_upsert_of_nodup xs [] (by simpa using h)
  rw [List.nil_append] at hfold
  exact hfold

end Keyed

theorem Generator.byName_of_nodup {ts : List Target} (h : (ts.map Target.simple).Nodup) :
    Generator.byName ts = ((ts.map fun t => (t.simple, t)).mergeSort fun a b => decide (a.1 ≤ b.1)).map (·.2) := by
  have hkeys : Keyed.keys (ts.map fun t => (t.simple, t)) = ts.map Target.simple := by
    simp [Keyed.keys, Function.comp_def]
  unfold Generator.byName
  rw [Keyed.ofListLast_of_nodup _ (hkeys ▸ h)]

theorem Generator.byName_perm {ts : List Target} (h : (ts.map Target.simple).Nodup) :
    (Generator.byName ts).Perm ts := by
  rw [Generator.byName_of_nodup h]
  have hperm := (List.mergeSort_perm (ts.map fun t => (t.simple, t)) fun a b => decide (a.1 ≤ b.1)).map
    (·.2)
  simpa [Function.comp_def] using hperm

/-- Resolving roots one after another on one state, as generation does, never produces a simple
name twice. Each call returns targets whose simple names were not in scope before it; after
each call scope holds exactly the simple names of the targets returned so far, which are
pairwise distinct. So the targets collected by simple name are the targets returned, none
replaced. -/
theorem resolve_names_unique (r : Registry) :
    (∀ (done : List String) (root : String),
      let before := Discovery.resolveAll r done [] {}
      let call := Discovery.resolveRoot r root before.2
      (∀ t ∈ call.1, t.simple ∉ before.2.scope) ∧
        ((before.1 ++ call.1).map Target.simple).Nodup ∧
        ∀ x, x ∈ call.2.scope ↔ x ∈ (before.1 ++ call.1).map Target.simple) ∧
    ∀ roots : List String,
      (Generator.byName (Discovery.resolveAll r roots [] {}).1).Perm (Discovery.resolveAll r roots [] {}).1 := by
  constructor
  · intro done root before call
    have hcall := Discovery.resolveRoot_scopeGrowth r root before.2
    have hall := (Discovery.resolveAll_scopeGrowth r done {}).trans hcall
    refine ⟨hcall.fresh, hall.nodup, fun x => ?_⟩
    simpa using hall.scope x
  · intro roots
    exact Generator.byName_perm (Discovery.resolveAll_scopeGrowth r roots {}).nodup

end TypeBridge
