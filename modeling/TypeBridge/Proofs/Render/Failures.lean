import TypeBridge.Proofs.Discovery.Annotation
/-!
# Generation fails only by rejection

Every target a run returns is assembled from a declaration (`Discovery.resolveAll_assembled`),
and writing the file for assembled targets never fails (`Emitter.document_ok`). So generation
fails exactly when resolution does, with the same diagnostics (`Generator.generate_error_iff`).
-/

namespace TypeBridge

namespace Discovery

variable {r : Registry}

def Assembled (r : Registry) (t : Target) : Prop := ∃ d m, Target.assembled? r d m = some t

theorem process_assembled {d : Decl} {s : Discovery} {t : Target} (h : (process r d s).1 = some t) :
    Assembled r t := by
  rcases process_cases r d s with ⟨-, hnone, -⟩ | ⟨-, -, ⟨-, hp⟩ | ⟨rej, -, -, hp⟩⟩ | ⟨t', -, ht', hp⟩
  · rw [hnone] at h
    cases h
  · rw [hp] at h
    cases h
  · rw [hp] at h
    cases h
  · rw [hp] at h
    cases h
    exact ⟨d, s.mode, ht'⟩

theorem visit_assembled {e : String × String} {s : Discovery} {t : Target}
    (h : (visit r e s).1 = some t) : Assembled r t := by
  by_cases hs : e.1 ∈ s.scope
  · rw [visit_inert r (.inl hs)] at h
    cases h
  · cases hl : r.lookup? e.2 with
    | none =>
      rw [visit_inert r (.inr hl)] at h
      cases h
    | some d =>
      rw [visit_of_lookup r hs hl] at h
      exact process_assembled h

theorem drainSnapshot_assembled : ∀ (L : Keyed String) (s : Discovery),
    ∀ t ∈ (drainSnapshot r L [] s).1, Assembled r t := by
  intro L
  induction L with
  | nil => intro s t ht; simp [drainSnapshot] at ht
  | cons e rest ih =>
    intro s t ht
    rw [drainSnapshot_cons, drainSnapshot_acc, List.nil_append] at ht
    rcases List.mem_append.mp ht with ht | ht
    · exact visit_assembled (Option.mem_toList.mp ht)
    · exact ih _ t ht

theorem drain_assembled : ∀ (fuel : Nat) (s : Discovery), ∀ t ∈ (drain r fuel [] s).1, Assembled r t := by
  intro fuel
  induction fuel with
  | zero => intro s t ht; simp [drain] at ht
  | succ fuel ih =>
    intro s t ht
    simp only [drain] at ht
    split at ht
    · cases ht
    · rw [drain_acc] at ht
      rcases List.mem_append.mp ht with ht | ht
      · exact drainSnapshot_assembled _ s t ht
      · exact ih _ t ht

theorem resolveRoot_assembled (root : String) (s : Discovery) :
    ∀ t ∈ (resolveRoot r root s).1, Assembled r t := by
  intro t ht
  rw [resolveRoot_eq, drain_acc] at ht
  rcases List.mem_append.mp ht with ht | ht
  · -- the root's own target
    unfold rootStep at ht
    split at ht
    · exact process_assembled (Option.mem_toList.mp ht)
    · cases ht
  · exact drain_assembled _ _ t ht

/-- Every target of a run is assembled from some declaration. -/
theorem resolveAll_assembled : ∀ (roots : List String) (s : Discovery),
    ∀ t ∈ (resolveAll r roots [] s).1, Assembled r t := by
  intro roots
  induction roots with
  | nil => intro s t ht; simp [resolveAll] at ht
  | cons root rest ih =>
    intro s t ht
    simp only [resolveAll, List.nil_append] at ht
    rw [resolveAll_acc] at ht
    rcases List.mem_append.mp ht with ht | ht
    · exact resolveRoot_assembled root s t ht
    · exact ih _ t ht

end Discovery

theorem List.mapM_ok_of_forall {ε α β : Type} {f : α → Except ε β} :
    ∀ {xs : List α}, (∀ x ∈ xs, ∃ y, f x = .ok y) → ∃ ys, xs.mapM f = .ok ys
  | [], _ => ⟨[], rfl⟩
  | x :: xs, h => by
    obtain ⟨y, hy⟩ := h x List.mem_cons_self
    obtain ⟨ys, hys⟩ := List.mapM_ok_of_forall fun z hz => h z (List.mem_cons_of_mem _ hz)
    refine ⟨y :: ys, ?_⟩
    rw [List.mapM_cons, hy, hys]
    rfl

namespace Wrapped

theorem build_use (site : Option TypeRef) (use : UseSite) (anns : List String) (τ : TypeRef) :
    (build site use anns τ).use = use := by
  cases τ <;> rfl

theorem classifyNode_use (r : Registry) (w : Wrapped) : (classifyNode r w).use = w.use := by
  unfold classifyNode
  split <;> rfl

theorem classify_use (r : Registry) (w : Wrapped) : (w.classify r).use = w.use := by
  rw [classify_eq, classifyNode_use]

end Wrapped

namespace Target

variable {r : Registry} {S : Decl} {mode : Mode} {t : Target}

theorem typeVariables_use (h : assembled? r S mode = some t) :
    ∀ w ∈ t.typeVariables.values, w.use = .typeVariable := by
  intro w hw
  obtain ⟨e, he, rfl⟩ := List.mem_map.mp hw
  have hel : Eligible r S := (assembled?_isSome_iff mode).mp (by rw [h]; rfl)
  rcases hel.shape with hS | hS
  · rw [(assembled?_struct h hS).2.2] at he
    rcases Keyed.mem_foldl_insertNew _ _ _ he with he | ⟨p, -, rfl⟩
    · cases he
    · rw [Wrapped.classify_use, Wrapped.typeVariable, Wrapped.build_use]
  · -- an enum has none
    unfold assembled? assemble at h
    have he' : (S.kind == .enum) = true := by rw [hS]; rfl
    simp only [hel.not_pair, hel.ineligibility?_eq_none, he', beq_iff_eq, if_false, if_true] at h
    cases h
    cases he

end Target

namespace Emitter

variable {e : Emitter} {r : Registry} {S : Decl} {mode : Mode} {t : Target}

theorem definition_ok (h : Target.assembled? r S mode = some t) (scope : List String) :
    ∃ s, e.definition scope t = .ok s := by
  have hparams : ∃ params, t.typeVariables.mapM (fun p =>
      typeParameter { rules := e.rules, scope, vars := t.typeVariables.keys } p.1 p.2) = .ok params := by
    refine List.mapM_ok_of_forall fun p hp => ?_
    have huse := Target.typeVariables_use h p.2 (List.mem_map_of_mem hp)
    unfold typeParameter Wrapped.bounds?
    rw [if_pos (by rw [huse]; rfl)]
    exact ⟨_, rfl⟩
  obtain ⟨params, hparams⟩ := hparams
  unfold definition
  cases t.kind with
  | enum => exact ⟨_, rfl⟩
  | interface =>
    unfold interfaceText
    simp only [hparams]
    exact ⟨_, rfl⟩

/-- Writing the file for assembled targets never fails. -/
theorem document_ok {roots : List String} {types : List Target}
    (h : ∀ t ∈ types, ∃ S mode, Target.assembled? r S mode = some t) :
    ∃ out, e.document roots types = .ok out := by
  obtain ⟨defs, hdefs⟩ : ∃ defs,
      (types.filter (e.emits roots)).mapM (e.definition (types.map (·.simple))) = .ok defs :=
    List.mapM_ok_of_forall fun t ht => by
      obtain ⟨S, mode, hS⟩ := h t (List.mem_filter.mp ht).1
      exact definition_ok hS _
  unfold document
  simp only [hdefs]
  exact ⟨_, rfl⟩

end Emitter

namespace Generator

variable {g : Generator}

theorem resolve_error {e : GenerationError} (h : g.resolve = .error e) : ∃ ds, e = .rejected ds := by
  unfold resolve at h
  split at h
  split at h
  · cases h
    exact ⟨_, rfl⟩
  · cases h

theorem generate_of_resolve_ok {res : Resolution} (h : g.resolve = .ok res) : ∃ out, g.generate = .ok out := by
  have hassembled : ∀ t ∈ res.types, ∃ S mode, Target.assembled? g.registry S mode = some t := by
    intro t ht
    rw [resolve_types h] at ht
    have hperm := byName_perm (Discovery.resolveAll_scopeGrowth g.registry g.registry.roots {}).nodup
    exact Discovery.resolveAll_assembled _ _ t (hperm.mem_iff.mp ht)
  obtain ⟨out, hout⟩ : ∃ out, g.emitter.document g.registry.roots res.types = .ok out :=
    Emitter.document_ok hassembled
  exact ⟨out, (generate_ok_iff g out).mpr ⟨res, h, hout⟩⟩

theorem generate_of_resolve_error {e : GenerationError} (h : g.resolve = .error e) :
    g.generate = .error e := by
  unfold generate
  rw [h]
  rfl

/-- Generation fails exactly when resolving the roots fails, with the same error and so the
same diagnostics, whatever the registry, roots, configuration, custom rules and hooks; it never
fails while writing the file. -/
theorem generate_error_iff (g : Generator) (e : GenerationError) :
    (g.generate = .error e ↔ g.resolve = .error e) ∧ ∀ se, g.generate ≠ .error (.internal se) := by
  have hiff : ∀ e, g.generate = .error e ↔ g.resolve = .error e := by
    intro e
    constructor
    · intro hgen
      cases hres : g.resolve with
      | error e' =>
        rw [generate_of_resolve_error hres] at hgen
        cases hgen
        rfl
      | ok res =>
        obtain ⟨out, hout⟩ := generate_of_resolve_ok hres
        rw [hout] at hgen
        cases hgen
    · exact generate_of_resolve_error
  refine ⟨hiff e, fun se hgen => ?_⟩
  obtain ⟨ds, hds⟩ := resolve_error ((hiff _).mp hgen)
  cases hds

end Generator

end TypeBridge
