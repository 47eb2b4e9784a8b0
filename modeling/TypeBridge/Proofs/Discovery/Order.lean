import TypeBridge.Proofs.Render.Origin
/-!
# The order of the roots

When no two reached declarations share a simple name, the order of the roots does not matter:
failure depends on the roots as a set, and two successful orders give, by simple name, targets
that differ in their origin fields only, hence the same file when no hook reads an origin.
-/

namespace TypeBridge

namespace Discovery

variable {r : Registry} {s : Discovery} {d : Decl}

@[simp] theorem Severity.error_beq_error : (Severity.error == Severity.error) = true := rfl
@[simp] theorem Severity.warning_beq_error : (Severity.warning == Severity.error) = false := rfl

/-! ### Discovered types record no error -/

theorem process_transitive (h : s.mode = .transitive) :
    (process r d s).2.mode = .transitive ∧ (process r d s).2.annotated = s.annotated ∧
      (process r d s).2.hasErrors = s.hasErrors := by
  rcases process_cases r d s with
    ⟨-, -, hskip | ⟨ex, hroot, -, -, -⟩⟩ | ⟨-, -, ⟨-, hp⟩ | ⟨rej, -, -, hp⟩⟩ | ⟨t, -, -, hp⟩
  · rw [hskip]
    exact ⟨h, rfl, rfl⟩
  · rw [h] at hroot
    cases hroot
  · rw [hp]
    exact ⟨h, rfl, rfl⟩
  · rw [hp]
    simp [reject_eq, h, hasErrors, List.any_append, Diagnostic.isError]
  · rw [hp]
    simp [addToScope_annotated, h, hasErrors]

theorem visit_transitive (h : s.mode = .transitive) (e : String × String) :
    (visit r e s).2.mode = .transitive ∧ (visit r e s).2.annotated = s.annotated ∧
      (visit r e s).2.hasErrors = s.hasErrors := by
  simp only [visit]
  split
  · exact ⟨h, rfl, rfl⟩
  · split
    · exact ⟨h, rfl, rfl⟩
    · exact process_transitive h

theorem drain_preserves (P : Discovery → Prop) (hstep : ∀ e s, P s → P (visit r e s).2) :
    ∀ (fuel : Nat) (acc : List Target) (s : Discovery), P s → P (drain r fuel acc s).2 := by
  have hsnap : ∀ (L : Keyed String) (acc : List Target) (s : Discovery), P s → P (drainSnapshot r L acc s).2 := by
    intro L
    induction L with
    | nil => exact fun _ _ h => h
    | cons e rest ih =>
      intro acc s h
      rw [drainSnapshot_cons]
      exact ih _ _ (hstep e s h)
  intro fuel
  induction fuel with
  | zero => exact fun _ _ h => h
  | succ fuel ih =>
    intro acc s h
    simp only [drain]
    split
    · exact h
    · exact ih _ _ (hsnap _ _ _ h)

theorem drain_transitive (h : s.mode = .transitive) (fuel : Nat) (acc : List Target) :
    (drain r fuel acc s).2.annotated = s.annotated ∧ (drain r fuel acc s).2.hasErrors = s.hasErrors := by
  let P : Discovery → Prop := fun s' =>
    s'.mode = .transitive ∧ s'.annotated = s.annotated ∧ s'.hasErrors = s.hasErrors
  have hstep : ∀ e s', P s' → P (visit r e s').2 := by
    rintro e s' ⟨hm, ha, he⟩
    obtain ⟨hm', ha', he'⟩ := (visit_transitive hm e : (visit r e s').2.mode = .transitive ∧
      (visit r e s').2.annotated = s'.annotated ∧ (visit r e s').2.hasErrors = s'.hasErrors)
    exact ⟨hm', ha'.trans ha, he'.trans he⟩
  have hkeep : P (drain r fuel acc s).2 := drain_preserves P hstep fuel acc s ⟨h, rfl, rfl⟩
  exact ⟨hkeep.2.1, hkeep.2.2⟩

/-! ### What a root records -/

def Collides (s : Discovery) (d : Decl) : Prop :=
  d.simple ∈ s.scope ∧ ∃ ex, s.annotated.get? d.simple = some ex ∧ ex ≠ d.name

theorem hasErrors_error (s : Discovery) (rej : Rejection) : (s.error rej).hasErrors = true := by
  simp [Discovery.error, hasErrors, List.any_append, Diagnostic.isError]

theorem process_hasErrors_inScope (h : s.mode = .explicitRoot) (hin : d.simple ∈ s.scope) :
    (process r d s).2.hasErrors = true ↔ s.hasErrors = true ∨ Collides s d := by
  have hc : s.inScope d.simple = true := (inScope_iff s _).mpr hin
  cases hget : s.annotated.get? d.simple with
  | none =>
    have hp : (process r d s).2 = s := by simp [process, hc, h, hget]
    rw [hp]
    constructor
    · exact .inl
    · rintro (h' | ⟨-, ex, hex, -⟩)
      · exact h'
      · rw [hget] at hex
        cases hex
  | some ex =>
    by_cases hex : ex = d.name
    · have hp : (process r d s).2 = s := by simp [process, hc, h, hget, hex]
      rw [hp]
      constructor
      · exact .inl
      · rintro (h' | ⟨-, ex', hex', hne⟩)
        · exact h'
        · rw [hget] at hex'
          cases hex'
          exact absurd hex hne
    · have hp : (process r d s).2 = s.error (.duplicateName d.simple ex d.name) := by
        simp [process, hc, h, hget, hex]
      rw [hp]
      exact ⟨fun _ => .inr ⟨hin, ex, hget, hex⟩, fun _ => hasErrors_error _ _⟩

theorem process_hasErrors_free (h : s.mode = .explicitRoot) (hin : d.simple ∉ s.scope) :
    (process r d s).2.hasErrors = true ↔ s.hasErrors = true ∨ (d.name ≠ Known.pair ∧ ¬Eligible r d) := by
  rcases process_cases r d s with
    ⟨hin', -⟩ | ⟨-, -, ⟨hpair, hp⟩ | ⟨rej, hpair, hrej, hp⟩⟩ | ⟨t, -, ht, hp⟩
  · exact absurd hin' hin
  · -- the pair type is dropped without a diagnostic
    rw [hp]
    constructor
    · exact .inl
    · rintro (h' | ⟨hne, -⟩)
      · exact h'
      · exact absurd hpair hne
  · -- a root that cannot be generated is an error
    rw [hp]
    have herr : ((s.reject rej).markRejected d.name).hasErrors = true := by
      simp [reject_eq, h, hasErrors, List.any_append, Diagnostic.isError]
    refine ⟨fun _ => .inr ⟨hpair, fun he => ?_⟩, fun _ => herr⟩
    rw [(eligible_iff.mp he).2] at hrej
    cases hrej
  · -- an eligible root records nothing
    rw [hp]
    have he : Eligible r d := (assembled?_isSome_iff s.mode).mp (by rw [ht]; rfl)
    have hsame : (((Target.queue r d).foldl enqueue s).addToScope d.name).hasErrors = s.hasErrors := by
      simp only [Discovery.hasErrors, addToScope_diagnostics, foldl_enqueue_diagnostics]
    rw [hsame]
    constructor
    · exact .inl
    · rintro (h' | ⟨-, hne⟩)
      · exact h'
      · exact absurd he hne

theorem process_hasErrors_root (h : s.mode = .explicitRoot) :
    (process r d s).2.hasErrors = true ↔ s.hasErrors = true ∨ Collides s d ∨
      (d.simple ∉ s.scope ∧ d.name ≠ Known.pair ∧ ¬Eligible r d) := by
  by_cases hin : d.simple ∈ s.scope
  · have hfree : ¬(d.simple ∉ s.scope ∧ d.name ≠ Known.pair ∧ ¬Eligible r d) := fun h' => h'.1 hin
    rw [process_hasErrors_inScope h hin]
    simp only [hfree, or_false]
  · have hnc : ¬Collides s d := fun hc => hin hc.1
    rw [process_hasErrors_free h hin]
    simp only [hnc, hin, not_false_eq_true, true_and, false_or]

theorem rootStep_hasErrors (root : String) :
    (rootStep r root s).2.hasErrors = true ↔ s.hasErrors = true ∨ r.lookup? root = none ∨
      ∃ d, r.lookup? root = some d ∧
        (Collides s d ∨ (d.simple ∉ s.scope ∧ d.name ≠ Known.pair ∧ ¬Eligible r d)) := by
  cases hl : r.lookup? root with
  | none =>
    have hstep : (rootStep r root s).2 = ({ s with mode := .explicitRoot } : Discovery).reject (.unknown root) := by
      simp [rootStep, hl]
    have herr : (({ s with mode := .explicitRoot } : Discovery).reject (.unknown root)).hasErrors = true := by
      simp [reject_eq, hasErrors, List.any_append, Diagnostic.isError]
    rw [hstep]
    exact ⟨fun _ => .inr (.inl rfl), fun _ => herr⟩
  | some d =>
    have hstep : (rootStep r root s).2 = (process r d { s with mode := .explicitRoot }).2 := by
      simp [rootStep, hl]
    rw [hstep, process_hasErrors_root rfl]
    constructor
    · rintro (h' | hc | hf)
      · exact .inl h'
      · exact .inr (.inr ⟨d, rfl, .inl hc⟩)
      · exact .inr (.inr ⟨d, rfl, .inr hf⟩)
    · rintro (h' | hnone | ⟨d', hd', hc | hf⟩)
      · exact .inl h'
      · cases hnone
      · cases hd'
        exact .inr (.inl hc)
      · cases hd'
        exact .inr (.inr hf)

theorem resolveRoot_hasErrors (root : String) :
    (resolveRoot r root s).2.hasErrors = (rootStep r root s).2.hasErrors := by
  rw [resolveRoot_eq]
  exact (drain_transitive rfl _ _).2

/-! ### What a root annotates -/

theorem process_annotated {e : String × String} (he : e ∈ (process r d s).2.annotated) :
    e ∈ s.annotated ∨ e = (d.simple, d.name) := by
  rcases process_cases r d s with
    ⟨-, -, hskip | ⟨ex, -, -, -, herr⟩⟩ | ⟨-, -, ⟨-, hp⟩ | ⟨rej, -, -, hp⟩⟩ | ⟨t, -, -, hp⟩
  · rw [hskip] at he
    exact .inl he
  · rw [herr] at he
    exact .inl he
  · rw [hp] at he
    exact .inl he
  · rw [hp] at he
    exact .inl (by simpa using he)
  · rw [hp] at he
    simp only [addToScope_annotated, foldl_enqueue_annotated] at he
    split at he
    · exact Keyed.mem_upsert he
    · exact .inl he

theorem resolveRoot_annotated (root : String) {e : String × String}
    (he : e ∈ (resolveRoot r root s).2.annotated) :
    e ∈ s.annotated ∨ ∃ d, r.lookup? root = some d ∧ e = (d.simple, d.name) := by
  rw [resolveRoot_eq, (drain_transitive rfl _ _).1] at he
  cases hl : r.lookup? root with
  | none =>
    simp only [rootStep, hl, reject_annotated] at he
    exact .inl he
  | some d =>
    simp only [rootStep, hl] at he
    rcases process_annotated he with he | he
    · exact .inl he
    · exact .inr ⟨d, rfl, he⟩

theorem resolveAll_annotated :
    ∀ (rest : List String) (acc : List Target) (s : Discovery) {e : String × String},
      e ∈ (resolveAll r rest acc s).2.annotated →
        e ∈ s.annotated ∨ ∃ root ∈ rest, ∃ d, r.lookup? root = some d ∧ e = (d.simple, d.name) := by
  intro rest
  induction rest with
  | nil => exact fun _ _ _ he => .inl he
  | cons root rest ih =>
    intro acc s e he
    rcases ih _ _ he with he | ⟨root', hroot', hd⟩
    · rcases resolveRoot_annotated root he with he | hd
      · exact .inl he
      · exact .inr ⟨root, List.mem_cons_self, hd⟩
    · exact .inr ⟨root', List.mem_cons_of_mem root hroot', hd⟩

end Discovery

def RootFails (r : Registry) (root : String) : Prop :=
  r.lookup? root = none ∨ ∃ d, r.lookup? root = some d ∧ d.name ≠ Known.pair ∧ ¬Eligible r d

namespace Discovery

variable {r : Registry} {roots : List String} {s : Discovery}

theorem rootStep_hasErrors_iff (hdist : DistinctNames r roots) {root : String} (hroot : root ∈ roots)
    (hscope : ∀ x ∈ s.scope, ∃ d, Generated r roots d ∧ d.simple = x)
    (hann : ∀ e ∈ s.annotated, ∃ root' ∈ roots, ∃ d, r.lookup? root' = some d ∧ e = (d.simple, d.name)) :
    (rootStep r root s).2.hasErrors = true ↔ s.hasErrors = true ∨ RootFails r root := by
  rw [rootStep_hasErrors]
  constructor
  · rintro (h | hnone | ⟨d, hd, ⟨-, ex, hex, hne⟩ | ⟨-, hpair, hel⟩⟩)
    · exact .inl h
    · exact .inr (.inl hnone)
    · -- the path annotated under the root's simple name is that of a root with that simple name
      exfalso
      obtain ⟨root', hroot', d', hd', heq⟩ := hann _ (Keyed.mem_of_get? hex)
      obtain ⟨hsimple, hname⟩ := Prod.mk.inj heq
      have hsame : d' = d := hdist d' d (.root hroot' hd') (.root hroot hd) hsimple.symm
      exact hne (hname.trans (congrArg Decl.name hsame))
    · exact .inr (.inr ⟨d, hd, hpair, hel⟩)
  · rintro (h | hnone | ⟨d, hd, hpair, hel⟩)
    · exact .inl h
    · exact .inr (.inl hnone)
    · -- a generated declaration in scope with the root's simple name would be the root itself
      refine .inr (.inr ⟨d, hd, .inr ⟨fun hin => ?_, hpair, hel⟩⟩)
      obtain ⟨d', hd', hsimple⟩ := hscope _ hin
      have hsame : d' = d := hdist d' d hd'.reaches (.root hroot hd) hsimple
      exact hel (hsame ▸ hd'.eligible)

theorem resolveAll_scope (hr : r.WellFormed) {pre : List String} (hpre : ∀ x ∈ pre, x ∈ roots) :
    ∀ x ∈ (resolveAll r pre [] {}).2.scope, ∃ d, Generated r roots d ∧ d.simple = x := by
  intro x hx
  have hsound := (resolveAll_runInv hr pre [] {} hpre .empty rfl).sound
  obtain ⟨t, ht, rfl⟩ : ∃ t ∈ (resolveAll r pre [] {}).1, t.simple = x := by
    simpa using ((resolveAll_scopeGrowth r pre {}).scope x).mp hx
  obtain ⟨d, hd, m, hm⟩ := hsound t (by simpa using ht)
  refine ⟨d, hd, ?_⟩
  simp [Target.simple, Decl.simple, Target.assembled?_name r d hm]

theorem resolveAll_hasErrors (hr : r.WellFormed) (hdist : DistinctNames r roots) :
    ∀ (rest pre : List String), (∀ x ∈ pre ++ rest, x ∈ roots) →
      ((resolveAll r (pre ++ rest) [] {}).2.hasErrors = true ↔
        (resolveAll r pre [] {}).2.hasErrors = true ∨ ∃ root ∈ rest, RootFails r root) := by
  intro rest
  induction rest with
  | nil => simp
  | cons root rest ih =>
    intro pre hroots
    have hpre : ∀ x ∈ pre, x ∈ roots := fun x hx => hroots x (by simp [hx])
    have hroot : root ∈ roots := hroots root (by simp)
    have hsplit : pre ++ root :: rest = (pre ++ [root]) ++ rest := by simp
    have hstep : (resolveAll r (pre ++ [root]) [] {}).2 = (resolveRoot r root (resolveAll r pre [] {}).2).2 := by
      rw [resolveAll_append]
      rfl
    have hann : ∀ e ∈ (resolveAll r pre [] {}).2.annotated,
        ∃ root' ∈ roots, ∃ d, r.lookup? root' = some d ∧ e = (d.simple, d.name) := by
      intro e he
      rcases resolveAll_annotated pre [] {} he with he | ⟨root', hroot', hd⟩
      · simp at he
      · exact ⟨root', hpre root' hroot', hd⟩
    rw [hsplit, ih (pre ++ [root]) (fun x hx => hroots x (hsplit ▸ hx)), hstep, resolveRoot_hasErrors,
      rootStep_hasErrors_iff hdist hroot (resolveAll_scope hr hpre) hann]
    constructor
    · rintro ((h | h) | ⟨root', hroot', h⟩)
      · exact .inl h
      · exact .inr ⟨root, List.mem_cons_self, h⟩
      · exact .inr ⟨root', List.mem_cons_of_mem root hroot', h⟩
    · rintro (h | ⟨root', hroot', h⟩)
      · exact .inl (.inl h)
      · rcases List.mem_cons.mp hroot' with rfl | hroot'
        · exact .inl (.inr h)
        · exact .inr ⟨root', hroot', h⟩

theorem resolveAll_hasErrors_iff (hr : r.WellFormed) (hdist : DistinctNames r roots) :
    (resolveAll r roots [] {}).2.hasErrors = true ↔ ∃ root ∈ roots, RootFails r root := by
  have h := resolveAll_hasErrors hr hdist roots [] (by simp)
  have hnil : (resolveAll r [] [] {}).2.hasErrors = false := rfl
  rw [List.nil_append, hnil] at h
  simpa using h

end Discovery

/-! ### Discovery reads the declarations of a registry, never its roots -/

section Frame

variable (r : Registry) (x : List String)

mutual
theorem Wrapped.classify_withRoots : ∀ w : Wrapped, w.classify { r with roots := x } = w.classify r
  | ⟨ty, site, use, anns, ps, bs, orig, shape, rv⟩ => by
    simp only [Wrapped.classify]
    rw [Wrapped.classifyAll_withRoots ps, Wrapped.classifyAll_withRoots bs]
    rfl
theorem Wrapped.classifyAll_withRoots : ∀ ps : List (String × Wrapped),
    Wrapped.classifyAll { r with roots := x } ps = Wrapped.classifyAll r ps
  | [] => rfl
  | (k, w) :: ps => by
    simp only [Wrapped.classifyAll]
    rw [Wrapped.classify_withRoots w, Wrapped.classifyAll_withRoots ps]
end

theorem Discovery.classifyAndEnqueue_withRoots (s : Discovery) (w : Wrapped) :
    s.classifyAndEnqueue { r with roots := x } w = s.classifyAndEnqueue r w := by
  simp only [Discovery.classifyAndEnqueue, Wrapped.classify_withRoots]
  rfl

namespace Target

theorem wrapTypeVariables_withRoots (ps : List TypeParam) (acc : Keyed Wrapped) (s : Discovery) :
    wrapTypeVariables { r with roots := x } ps acc s = wrapTypeVariables r ps acc s := by
  induction ps generalizing acc s with
  | nil => rfl
  | cons p ps ih => simp only [wrapTypeVariables, Discovery.classifyAndEnqueue_withRoots, ih]

theorem wrapProperties_withRoots (d : Decl) (ms : List Member) (acc : Keyed TargetMember) (s : Discovery) :
    wrapProperties { r with roots := x } d ms acc s = wrapProperties r d ms acc s := by
  induction ms generalizing acc s with
  | nil => rfl
  | cons m ms ih => simp only [wrapProperties, Discovery.classifyAndEnqueue_withRoots, ih]

theorem supertypeArgs_withRoots : ∀ (params : List TypeParam) (args : List TypeRef)
    (acc : List Wrapped × Keyed TypeRef) (s : Discovery),
    supertypeArgs { r with roots := x } params args acc s = supertypeArgs r params args acc s
  | _, [], _, _ => rfl
  | p :: ps, a :: as, (ws, res), s => by
    simp only [supertypeArgs, Discovery.classifyAndEnqueue_withRoots, supertypeArgs_withRoots ps as]
  | [], a :: as, (ws, res), s => by
    simp only [supertypeArgs, Discovery.classifyAndEnqueue_withRoots, supertypeArgs_withRoots [] as]

theorem applySupertypes_withRoots (sups : List (TypeRef × Decl)) (acc : List AppliedType) (s : Discovery) :
    applySupertypes { r with roots := x } sups acc s = applySupertypes r sups acc s := by
  induction sups generalizing acc s with
  | nil => rfl
  | cons p sups ih =>
    obtain ⟨ty, sup⟩ := p
    simp only [applySupertypes, supertypeArgs_withRoots, ih]

theorem assemble_withRoots (d : Decl) (s : Discovery) :
    assemble { r with roots := x } d s = assemble r d s := by
  simp only [assemble, wrapTypeVariables_withRoots, wrapProperties_withRoots, applySupertypes_withRoots]
  rfl

end Target

namespace Discovery

theorem process_withRoots (d : Decl) (s : Discovery) :
    process { r with roots := x } d s = process r d s := by
  simp only [process, Target.assemble_withRoots]

theorem drainSnapshot_withRoots (L : Keyed String) (acc : List Target) (s : Discovery) :
    drainSnapshot { r with roots := x } L acc s = drainSnapshot r L acc s := by
  induction L generalizing acc s with
  | nil => rfl
  | cons e L ih =>
    obtain ⟨simple, path⟩ := e
    simp only [drainSnapshot, process_withRoots, ih]
    rfl

theorem drain_withRoots (fuel : Nat) (acc : List Target) (s : Discovery) :
    drain { r with roots := x } fuel acc s = drain r fuel acc s := by
  induction fuel generalizing acc s with
  | zero => rfl
  | succ fuel ih => simp only [drain, drainSnapshot_withRoots, ih]

theorem resolveRoot_withRoots (root : String) (s : Discovery) :
    resolveRoot { r with roots := x } root s = resolveRoot r root s := by
  simp only [resolveRoot, process_withRoots, drain_withRoots]
  rfl

theorem resolveAll_withRoots (rest : List String) (acc : List Target) (s : Discovery) :
    resolveAll { r with roots := x } rest acc s = resolveAll r rest acc s := by
  induction rest generalizing acc s with
  | nil => rfl
  | cons root rest ih => simp only [resolveAll, resolveRoot_withRoots, ih]

end Discovery

end Frame

/-! ### The closure of the roots depends on them as a set -/

section Roots

variable {r : Registry} {roots roots' : List String}

theorem Reaches.mono (hsub : ∀ x ∈ roots, x ∈ roots') {d : Decl} (h : Reaches r roots d) :
    Reaches r roots' d := by
  induction h with
  | root hroot hl => exact .root (hsub _ hroot) hl
  | step _ he hk hs ih => exact .step ih he hk hs

theorem Generated.mono (hsub : ∀ x ∈ roots, x ∈ roots') {d : Decl} (h : Generated r roots d) :
    Generated r roots' d := by
  induction h with
  | root hroot hl he => exact .root (hsub _ hroot) hl he
  | step _ hk hs he ih => exact .step ih hk hs he

theorem DistinctNames.mono (hsub : ∀ x ∈ roots', x ∈ roots) (h : DistinctNames r roots) :
    DistinctNames r roots' :=
  fun d₁ d₂ h₁ h₂ => h d₁ d₂ (h₁.mono hsub) (h₂.mono hsub)

namespace Discovery

theorem resolveAll_withOrigin_nodup (r : Registry) (roots : List String) (o : TargetOrigin) :
    ((resolveAll r roots [] {}).1.map (Target.withOrigin o)).Nodup :=
  List.Nodup.of_map Target.simple (by simpa [Function.comp_def] using (resolveAll_scopeGrowth r roots {}).nodup)

theorem resolveAll_mem_of_subset (hr : r.WellFormed) (hdist' : DistinctNames r roots')
    (hsub : ∀ x ∈ roots, x ∈ roots') {t : Target} (ht : t ∈ (resolveAll r roots [] {}).1) :
    t.withOrigin .annotated ∈ (resolveAll r roots' [] {}).1.map (Target.withOrigin .annotated) := by
  obtain ⟨d, hd, m, hm⟩ := resolveAll_sound hr ht
  obtain ⟨t', ht', m', hm'⟩ := resolveAll_complete hr hdist' (hd.mono hsub)
  have horigin := Target.assembled?_withOrigin r d m m' .annotated
  rw [hm, hm'] at horigin
  exact List.mem_map.mpr ⟨t', ht', (Option.some.inj horigin).symm⟩

theorem resolveAll_perm (hr : r.WellFormed) (hdist : DistinctNames r roots) (hperm : roots'.Perm roots) :
    ((resolveAll r roots' [] {}).1.map (Target.withOrigin .annotated)).Perm
      ((resolveAll r roots [] {}).1.map (Target.withOrigin .annotated)) := by
  have hdist' : DistinctNames r roots' := hdist.mono fun x hx => hperm.mem_iff.mp hx
  rw [List.perm_ext_iff_of_nodup (resolveAll_withOrigin_nodup r roots' _) (resolveAll_withOrigin_nodup r roots _)]
  intro u
  constructor
  · intro hu
    obtain ⟨t, ht, rfl⟩ := List.mem_map.mp hu
    exact resolveAll_mem_of_subset hr hdist (fun x hx => hperm.mem_iff.mp hx) ht
  · intro hu
    obtain ⟨t, ht, rfl⟩ := List.mem_map.mp hu
    exact resolveAll_mem_of_subset hr hdist' (fun x hx => hperm.mem_iff.mpr hx) ht

end Discovery

end Roots

/-! ### Two orders of the roots in a generator -/

namespace Generator

theorem byName_sorted {ts : List Target} (h : (ts.map Target.simple).Nodup) :
    (byName ts).Pairwise fun a b => a.simple ≤ b.simple := by
  rw [byName_of_nodup h, List.pairwise_map]
  refine (pairwise_mergeSort_key Prod.fst _).imp_of_mem fun ha hb hab => ?_
  obtain ⟨t, -, rfl⟩ := List.mem_map.mp (List.mem_mergeSort.mp ha)
  obtain ⟨u, -, rfl⟩ := List.mem_map.mp (List.mem_mergeSort.mp hb)
  exact hab

theorem eq_of_sorted_perm {l l' : List Target} (hl : l.Pairwise fun a b => a.simple ≤ b.simple)
    (hl' : l'.Pairwise fun a b => a.simple ≤ b.simple) (hn : (l.map Target.simple).Nodup) (h : l.Perm l') :
    l = l' := by
  refine h.eq_of_pairwise (fun a b ha hb hab hba => ?_) hl hl'
  exact List.inj_on_of_nodup_map hn ha (h.mem_iff.mpr hb) (String.le_antisymm hab hba)

theorem byName_withOrigin {ts ts' : List Target} (o : TargetOrigin) (hn : (ts.map Target.simple).Nodup)
    (hn' : (ts'.map Target.simple).Nodup) (h : (ts.map (Target.withOrigin o)).Perm (ts'.map (Target.withOrigin o))) :
    (byName ts).map (Target.withOrigin o) = (byName ts').map (Target.withOrigin o) := by
  have hsorted : ∀ l : List Target, (l.map Target.simple).Nodup →
      ((byName l).map (Target.withOrigin o)).Pairwise fun a b => a.simple ≤ b.simple := by
    intro l hl
    simpa [List.pairwise_map] using byName_sorted hl
  have hnodup : (((byName ts).map (Target.withOrigin o)).map Target.simple).Nodup := by
    have hperm := ((byName_perm hn).map Target.simple).nodup_iff.mpr hn
    simpa [Function.comp_def] using hperm
  refine eq_of_sorted_perm (hsorted ts hn) (hsorted ts' hn') hnodup ?_
  exact ((byName_perm hn).map _).trans (h.trans ((byName_perm hn').map _).symm)

def withRoots (g : Generator) (roots : List String) : Generator :=
  { g with registry := { g.registry with roots := roots } }

theorem withRoots_run (g : Generator) (roots : List String) :
    Discovery.resolveAll (g.withRoots roots).registry (g.withRoots roots).registry.roots [] {} =
      Discovery.resolveAll g.registry roots [] {} :=
  Discovery.resolveAll_withRoots g.registry roots roots [] {}

theorem resolve_ok_iff (g : Generator) :
    (∃ res, g.resolve = .ok res) ↔ (Discovery.resolveAll g.registry g.registry.roots [] {}).2.hasErrors = false := by
  unfold resolve
  split
  rename_i ts s hrun
  rw [hrun]
  by_cases he : s.hasErrors = true
  · simp [he]
  · simp [he]

theorem generate_ok_iff (g : Generator) (out : String) :
    g.generate = .ok out ↔ ∃ res, g.resolve = .ok res ∧ g.emitter.document g.registry.roots res.types = .ok out := by
  unfold generate
  cases g.resolve with
  | error e => simp [bind, Except.bind]
  | ok res =>
    cases hdoc : g.emitter.document g.registry.roots res.types with
    | error e => simp [bind, Except.bind, hdoc]
    | ok text => simp [bind, Except.bind, hdoc]

section Reorder

variable {g : Generator} {roots : List String}

theorem resolve_ok_withRoots (hr : g.registry.WellFormed) (hdist : DistinctNames g.registry g.registry.roots)
    (hperm : roots.Perm g.registry.roots) :
    (∃ res, g.resolve = .ok res) ↔ ∃ res, (g.withRoots roots).resolve = .ok res := by
  have hdist' : DistinctNames g.registry roots := hdist.mono fun x hx => hperm.mem_iff.mp hx
  rw [resolve_ok_iff, resolve_ok_iff, withRoots_run, Bool.eq_false_iff, Bool.eq_false_iff,
    ne_eq, ne_eq, Discovery.resolveAll_hasErrors_iff hr hdist, Discovery.resolveAll_hasErrors_iff hr hdist']
  simp only [hperm.mem_iff]

theorem resolve_types_withRoots (hr : g.registry.WellFormed) (hdist : DistinctNames g.registry g.registry.roots)
    (hperm : roots.Perm g.registry.roots) {res res' : Resolution} (hres : g.resolve = .ok res)
    (hres' : (g.withRoots roots).resolve = .ok res') :
    res.types.map (Target.withOrigin .annotated) = res'.types.map (Target.withOrigin .annotated) := by
  have hdist' : DistinctNames g.registry roots := hdist.mono fun x hx => hperm.mem_iff.mp hx
  rw [resolve_types hres, resolve_types hres', withRoots_run]
  exact byName_withOrigin .annotated (Discovery.resolveAll_scopeGrowth _ _ {}).nodup
    (Discovery.resolveAll_scopeGrowth _ _ {}).nodup (Discovery.resolveAll_perm hr hdist' hperm.symm)

theorem document_withRoots (hr : g.registry.WellFormed) (hdist : DistinctNames g.registry g.registry.roots)
    (hperm : roots.Perm g.registry.roots) (hb : g.hooks.OriginBlind) {res res' : Resolution}
    (hres : g.resolve = .ok res) (hres' : (g.withRoots roots).resolve = .ok res') :
    (g.withRoots roots).emitter.document (g.withRoots roots).registry.roots res'.types =
      g.emitter.document g.registry.roots res.types :=
  calc (g.withRoots roots).emitter.document (g.withRoots roots).registry.roots res'.types
      = g.emitter.document g.registry.roots res'.types := g.emitter.document_perm hperm _
    _ = g.emitter.document g.registry.roots (res'.types.map (Target.withOrigin .annotated)) :=
        (g.emitter.document_withOrigin hb _ _ _).symm
    _ = g.emitter.document g.registry.roots (res.types.map (Target.withOrigin .annotated)) := by
        rw [resolve_types_withRoots hr hdist hperm hres hres']
    _ = g.emitter.document g.registry.roots res.types := g.emitter.document_withOrigin hb _ _ _

end Reorder

/-- Resolving the roots of a generator in another order fails exactly when it fails in the
given order; when both succeed they give the same targets by simple name, up to their origin
fields, and with hooks that do not read origins they write the same file. -/
theorem resolve_root_order (g : Generator) (hr : g.registry.WellFormed)
    (hdist : DistinctNames g.registry g.registry.roots) {roots : List String}
    (hperm : roots.Perm g.registry.roots) :
    ((∃ res, g.resolve = .ok res) ↔ ∃ res, (g.withRoots roots).resolve = .ok res) ∧
      (∀ res res', g.resolve = .ok res → (g.withRoots roots).resolve = .ok res' →
        res.types.map (Target.withOrigin .annotated) = res'.types.map (Target.withOrigin .annotated)) ∧
      (g.hooks.OriginBlind → ∀ out, g.generate = .ok out ↔ (g.withRoots roots).generate = .ok out) := by
  have hok := resolve_ok_withRoots hr hdist hperm
  refine ⟨hok, fun _ _ hres hres' => resolve_types_withRoots hr hdist hperm hres hres', fun hb out => ?_⟩
  rw [generate_ok_iff, generate_ok_iff]
  constructor
  · rintro ⟨res, hres, hout⟩
    obtain ⟨res', hres'⟩ := hok.mp ⟨res, hres⟩
    exact ⟨res', hres', (document_withRoots hr hdist hperm hb hres hres').trans hout⟩
  · rintro ⟨res', hres', hout⟩
    obtain ⟨res, hres⟩ := hok.mpr ⟨res', hres'⟩
    exact ⟨res, hres, (document_withRoots hr hdist hperm hb hres hres').symm.trans hout⟩

end Generator

def graphRoots : Generator where
  registry := { mutualPair with roots := ["crate::graph::Node", "crate::graph::Edge"] }

theorem graphRoots_root_order :
    graphRoots.registry.WellFormed ∧ DistinctNames graphRoots.registry graphRoots.registry.roots ∧
      ["crate::graph::Edge", "crate::graph::Node"].Perm graphRoots.registry.roots ∧
      (((∃ res, graphRoots.resolve = .ok res) ↔
          ∃ res, (graphRoots.withRoots ["crate::graph::Edge", "crate::graph::Node"]).resolve = .ok res) ∧
        (∀ res res', graphRoots.resolve = .ok res →
          (graphRoots.withRoots ["crate::graph::Edge", "crate::graph::Node"]).resolve = .ok res' →
          res.types.map (Target.withOrigin .annotated) = res'.types.map (Target.withOrigin .annotated)) ∧
        (graphRoots.hooks.OriginBlind → ∀ out, graphRoots.generate = .ok out ↔
          (graphRoots.withRoots ["crate::graph::Edge", "crate::graph::Node"]).generate = .ok out)) :=
  have hr : graphRoots.registry.WellFormed := by decide
  have hdist : DistinctNames graphRoots.registry graphRoots.registry.roots := distinctNames_of_nodup (by decide)
  have hperm : ["crate::graph::Edge", "crate::graph::Node"].Perm graphRoots.registry.roots := by decide
  ⟨hr, hdist, hperm, Generator.resolve_root_order graphRoots hr hdist hperm⟩

end TypeBridge
