import TypeBridge.Proofs.Discovery.Order
/-!
# Annotated roots

A root is annotated when it enters scope while it is itself processed, so whether it is, and
whether a later root of its simple name collides with it, depends on whether that name was still
free on its turn. Diagnostics are only appended and a name in scope keeps its annotated path
(`resolveAll_pinned`); from these, `Generator.resolve_annotated_roots`.
-/

namespace TypeBridge

namespace Discovery

variable {r : Registry}

/-! ### What whole runs keep -/

section Preserve

variable (P : Discovery → Prop) (hprocess : ∀ d s, P s → P (process r d s).2)
  (hmode : ∀ s m, P s → P { s with mode := m }) (hpending : ∀ s q, P s → P { s with pending := q })
include hprocess hmode hpending

theorem resolveRoot_of_rootStep {root : String} {s : Discovery} (h : P (rootStep r root s).2) :
    P (resolveRoot r root s).2 := by
  have hvisit : ∀ e s, P s → P (visit r e s).2 := by
    intro e s hs
    have he := hpending s (s.pending.erase e.1) hs
    simp only [visit]
    split
    · exact he
    · split
      · exact he
      · exact hprocess _ _ he
  rw [resolveRoot_eq]
  exact drain_preserves P hvisit _ _ _ (hmode _ _ h)

theorem resolveAll_preserves (hunknown : ∀ s root, P s → P (s.reject (.unknown root))) :
    ∀ (roots : List String) (acc : List Target) (s : Discovery), P s → P (resolveAll r roots acc s).2 := by
  have hroot : ∀ root s, P s → P (resolveRoot r root s).2 := by
    intro root s hs
    apply resolveRoot_of_rootStep P hprocess hmode hpending
    have hm := hmode s .explicitRoot hs
    cases hl : r.lookup? root with
    | none =>
      simp only [rootStep, hl]
      exact hunknown _ root hm
    | some d =>
      simp only [rootStep, hl]
      exact hprocess d _ hm
  intro roots
  induction roots with
  | nil => exact fun _ _ hs => hs
  | cons root rest ih => exact fun _ s hs => ih _ _ (hroot root s hs)

end Preserve

theorem process_diagnostics_grow (d : Decl) (s : Discovery) :
    s.diagnostics <+: (process r d s).2.diagnostics := by
  rcases process_cases r d s with
    ⟨-, -, hskip | ⟨ex, -, -, -, herr⟩⟩ | ⟨-, -, ⟨-, hp⟩ | ⟨rej, -, -, hp⟩⟩ | ⟨t, -, -, hp⟩
  · rw [hskip]
  · rw [herr, error_diagnostics]
    exact List.prefix_append _ _
  · rw [hp, markRejected_diagnostics]
  · rw [hp, markRejected_diagnostics, reject_eq]
    exact List.prefix_append _ _
  · rw [hp, addToScope_diagnostics, foldl_enqueue_diagnostics]

theorem reject_diagnostics_grow (s : Discovery) (rej : Rejection) :
    s.diagnostics <+: (s.reject rej).diagnostics := by
  rw [reject_eq]
  exact List.prefix_append _ _

theorem resolveRoot_diagnostics_grow (root : String) (s : Discovery) :
    (rootStep r root s).2.diagnostics <+: (resolveRoot r root s).2.diagnostics :=
  resolveRoot_of_rootStep (fun s' => (rootStep r root s).2.diagnostics <+: s'.diagnostics)
    (fun d _ h => h.trans (process_diagnostics_grow d _)) (fun _ _ h => h) (fun _ _ h => h)
    (List.prefix_refl _)

theorem resolveAll_diagnostics_grow (roots : List String) (acc : List Target) (s : Discovery) :
    s.diagnostics <+: (resolveAll r roots acc s).2.diagnostics :=
  resolveAll_preserves (fun s' => s.diagnostics <+: s'.diagnostics)
    (fun d _ h => h.trans (process_diagnostics_grow d _)) (fun _ _ h => h) (fun _ _ h => h)
    (fun _ _ h => h.trans (reject_diagnostics_grow _ _)) roots acc s (List.prefix_refl _)

/-! ### Annotated names stay annotated -/

def Pinned (x path : String) (s : Discovery) : Prop :=
  x ∈ s.scope ∧ s.annotated.get? x = some path

theorem process_pinned {x path : String} (d : Decl) {s : Discovery} (h : Pinned x path s) :
    Pinned x path (process r d s).2 := by
  obtain ⟨hin, hget⟩ := h
  refine ⟨scope_process r hin, ?_⟩
  rcases process_cases r d s with
    ⟨-, -, hskip | ⟨ex, -, -, -, herr⟩⟩ | ⟨-, -, ⟨-, hp⟩ | ⟨rej, -, -, hp⟩⟩ | ⟨t, hfree, -, hp⟩
  · rw [hskip]
    exact hget
  · rw [herr, error_annotated]
    exact hget
  · rw [hp, markRejected_annotated]
    exact hget
  · rw [hp, markRejected_annotated, reject_annotated]
    exact hget
  · -- the committed simple name was free, so it is not `x`
    have hne : Path.simple d.name ≠ x := fun heq => hfree (by rw [Decl.simple, heq]; exact hin)
    rw [hp, addToScope_annotated, foldl_enqueue_annotated]
    split
    · rw [Keyed.get?_upsert, if_neg hne]
      exact hget
    · exact hget

theorem resolveRoot_pinned {x path root : String} {s : Discovery} (h : Pinned x path (rootStep r root s).2) :
    Pinned x path (resolveRoot r root s).2 :=
  resolveRoot_of_rootStep (Pinned x path) (fun d _ h => process_pinned d h) (fun _ _ h => h)
    (fun _ _ h => h) h

theorem resolveAll_pinned {x path : String} (roots : List String) (acc : List Target) {s : Discovery}
    (h : Pinned x path s) : Pinned x path (resolveAll r roots acc s).2 :=
  resolveAll_preserves (Pinned x path) (fun d _ h => process_pinned d h) (fun _ _ h => h)
    (fun _ _ h => h) (fun _ _ h => ⟨by rw [reject_scope]; exact h.1, by rw [reject_annotated]; exact h.2⟩) roots acc s h

/-! ### The step of a root -/

theorem rootStep_of_lookup {root : String} {d : Decl} (hl : r.lookup? root = some d) (s : Discovery) :
    rootStep r root s = ((process r d { s with mode := .explicitRoot }).1.toList,
      (process r d { s with mode := .explicitRoot }).2) := by
  simp only [rootStep, hl]

theorem rootStep_fresh {root : String} {d : Decl} (hl : r.lookup? root = some d) (he : Eligible r d)
    {s : Discovery} (hfree : d.simple ∉ s.scope) :
    ∃ t, Target.assembled? r d .explicitRoot = some t ∧ (rootStep r root s).1 = [t] ∧
      Pinned d.simple d.name (rootStep r root s).2 := by
  rw [rootStep_of_lookup hl]
  rcases process_cases r d { s with mode := .explicitRoot } with
    ⟨hin, -⟩ | ⟨-, hnone, -⟩ | ⟨t, -, ht, hp⟩
  · exact absurd hin hfree
  · have hsome := (assembled?_isSome_iff (r := r) Mode.explicitRoot).mpr he
    rw [Option.isSome_iff_ne_none] at hsome
    exact absurd hnone hsome
  · rw [hp]
    refine ⟨t, ht, rfl, (mem_addToScope_scope _ _).mpr (.inr rfl), ?_⟩
    rw [addToScope_annotated, foldl_enqueue_annotated, foldl_enqueue_mode, if_pos rfl,
      Keyed.get?_upsert]
    exact if_pos rfl

theorem process_collides {d : Decl} {s : Discovery} {ex : String} (hm : s.mode = .explicitRoot)
    (hpin : Pinned d.simple ex s) (hne : d.name ≠ ex) :
    process r d s = (none, s.error (.duplicateName d.simple ex d.name)) := by
  have hc : s.inScope d.simple = true := (inScope_iff s _).mpr hpin.1
  have hex : ex ≠ d.name := fun h => hne h.symm
  simp [process, hc, hm, hpin.2, hex]

theorem rootStep_collides {root : String} {d : Decl} (hl : r.lookup? root = some d) {s : Discovery}
    {ex : String} (hpin : Pinned d.simple ex s) (hne : d.name ≠ ex) :
    ⟨.error, .duplicateName d.simple ex d.name⟩ ∈ (rootStep r root s).2.diagnostics := by
  rw [rootStep_of_lookup hl, process_collides (s := { s with mode := .explicitRoot }) rfl hpin hne,
    error_diagnostics]
  exact List.mem_append_right _ (List.mem_singleton_self _)

theorem Target.assembled?_origin {d : Decl} {t : Target} {m : Mode} (h : Target.assembled? r d m = some t) :
    t.origin = if m = .explicitRoot then .annotated else .discovered := by
  unfold Target.assembled? Target.assemble at h
  by_cases hp : d.name = Known.pair
  · simp [hp] at h
  · cases hi : Target.ineligibility? r d with
    | some rej => simp [hp, hi] at h
    | none =>
      by_cases he : d.kind = .enum <;> simp [hp, hi, he] at h <;> rw [← h]

/-! ### Runs -/

variable {pre post : List String} {root : String} {d : Decl}

theorem free_of_not_generated (hr : r.WellFormed) (hfree : ∀ d', Generated r pre d' → d'.simple ≠ d.simple) :
    d.simple ∉ (resolveAll r pre [] {}).2.scope := fun hin => by
  have hscope : ∀ x ∈ (resolveAll r pre [] {}).2.scope, ∃ d', Generated r pre d' ∧ d'.simple = x :=
    resolveAll_scope hr fun _ hx => hx
  obtain ⟨d', hd', hx⟩ := hscope _ hin
  exact hfree d' hd' hx

theorem resolveAll_cons_snd (root : String) (rest : List String) (acc : List Target) (s : Discovery) :
    (resolveAll r (root :: rest) acc s).2 = (resolveAll r rest [] (resolveRoot r root s).2).2 := by
  simp only [resolveAll]
  rw [resolveAll_acc]

theorem mem_resolveAll_of_resolveRoot {t : Target} (ht : t ∈ (resolveRoot r root (resolveAll r pre [] {}).2).1) :
    t ∈ (resolveAll r (pre ++ root :: post) [] {}).1 := by
  rw [resolveAll_append, resolveAll_acc]
  refine List.mem_append_right _ ?_
  simp only [resolveAll, List.nil_append]
  rw [resolveAll_acc]
  exact List.mem_append_left _ ht

theorem resolveAll_root_annotated (hr : r.WellFormed) (hl : r.lookup? root = some d) (he : Eligible r d)
    (hfree : ∀ d', Generated r pre d' → d'.simple ≠ d.simple) {t : Target}
    (ht : t ∈ (resolveAll r (pre ++ root :: post) [] {}).1) (hsimple : t.simple = d.simple) :
    Target.assembled? r d .explicitRoot = some t ∧ t.origin = .annotated := by
  obtain ⟨t₀, ht₀, hstep, -⟩ := rootStep_fresh (s := (resolveAll r pre [] {}).2) hl he
    (free_of_not_generated hr hfree)
  have hmem₀ : t₀ ∈ (resolveAll r (pre ++ root :: post) [] {}).1 := by
    apply mem_resolveAll_of_resolveRoot
    rw [resolveRoot_eq, drain_acc, hstep]
    exact List.mem_append_left _ (List.mem_singleton_self _)
  have hsimple₀ : t₀.simple = d.simple := by
    simp [Target.simple, Decl.simple, Target.assembled?_name r d ht₀]
  -- the run never returns a simple name twice
  have heq : t = t₀ :=
    List.inj_on_of_nodup_map (resolveAll_scopeGrowth r _ {}).nodup ht hmem₀ (hsimple.trans hsimple₀.symm)
  subst heq
  exact ⟨ht₀, by rw [Target.assembled?_origin ht₀]; rfl⟩

theorem resolveAll_duplicate_roots (hr : r.WellFormed) (hl : r.lookup? root = some d) (he : Eligible r d)
    (hfree : ∀ d', Generated r pre d' → d'.simple ≠ d.simple) {mid post₂ : List String} {root₂ : String}
    {d₂ : Decl} (hl₂ : r.lookup? root₂ = some d₂) (hsimple : d₂.simple = d.simple) (hne : d₂.name ≠ d.name) :
    ⟨.error, .duplicateName d.simple d.name d₂.name⟩ ∈
      (resolveAll r (pre ++ root :: (mid ++ root₂ :: post₂)) [] {}).2.diagnostics := by
  set s₀ := (resolveAll r pre [] {}).2
  obtain ⟨-, -, -, hpin₀⟩ := rootStep_fresh hl he (free_of_not_generated hr hfree)
  -- the first root's simple name stays pinned to its path up to the second root
  set s₁ := (resolveAll r mid [] (resolveRoot r root s₀).2).2
  have hpin₁ : Pinned d₂.simple d.name s₁ :=
    hsimple ▸ resolveAll_pinned mid [] (resolveRoot_pinned hpin₀)
  have hcol := rootStep_collides hl₂ hpin₁ hne
  rw [hsimple] at hcol
  -- and the diagnostics recorded there are never dropped
  have hrun : (resolveAll r (pre ++ root :: (mid ++ root₂ :: post₂)) [] {}).2 =
      (resolveAll r post₂ [] (resolveRoot r root₂ s₁).2).2 := by
    rw [resolveAll_append, resolveAll_acc, resolveAll_cons_snd, resolveAll_append, resolveAll_acc,
      resolveAll_cons_snd]
  rw [hrun]
  exact ((resolveRoot_diagnostics_grow root₂ s₁).trans
    (resolveAll_diagnostics_grow post₂ [] _)).subset hcol

theorem not_generated_nil {d : Decl} : ¬Generated r [] d := fun h => by
  induction h with
  | root hroot => exact List.not_mem_nil hroot
  | step _ _ _ _ ih => exact ih

end Discovery

namespace Generator

theorem resolve_of_error {g : Generator} {rej : Rejection}
    (hmem : ⟨.error, rej⟩ ∈ (Discovery.resolveAll g.registry g.registry.roots [] {}).2.diagnostics) :
    g.resolve = .error (.rejected (Discovery.resolveAll g.registry g.registry.roots [] {}).2.diagnostics) := by
  have he : (Discovery.resolveAll g.registry g.registry.roots [] {}).2.hasErrors = true :=
    List.any_eq_true.mpr ⟨_, hmem, rfl⟩
  unfold resolve
  split
  rename_i ts s hrun
  rw [hrun] at he ⊢
  rw [if_pos he]

theorem resolve_of_no_errors {g : Generator}
    (h : (Discovery.resolveAll g.registry g.registry.roots [] {}).2.hasErrors = false) :
    g.resolve = .ok ⟨byName (Discovery.resolveAll g.registry g.registry.roots [] {}).1,
      (Discovery.resolveAll g.registry g.registry.roots [] {}).2.diagnostics⟩ := by
  unfold resolve
  split
  rename_i ts s hrun
  rw [hrun] at h ⊢
  rw [if_neg (by simp [h])]

/-- Whether a root is generated as annotated, and whether a second root of its simple name is
reported, is settled when its turn comes. Take a root whose simple name is free then: no
declaration generated from the roots before it has that simple name. When the run succeeds, its
target is annotated. When it is eligible, every later root that looks up to a declaration of the
same simple name under another path makes the run fail with a duplicate-name error that names
the root's path as the one generated and the other as the one that would collide. -/
theorem resolve_annotated_roots (g : Generator) (hr : g.registry.WellFormed) {pre post : List String}
    {root : String} {d : Decl} (hroots : g.registry.roots = pre ++ root :: post)
    (hl : g.registry.lookup? root = some d)
    (hfree : ∀ d', Generated g.registry pre d' → d'.simple ≠ d.simple) :
    (∀ res, g.resolve = .ok res → ∀ t ∈ res.types, t.name = d.name → t.origin = .annotated) ∧
    (Eligible g.registry d → ∀ mid root₂ post₂ d₂, post = mid ++ root₂ :: post₂ →
      g.registry.lookup? root₂ = some d₂ → d₂.simple = d.simple → d₂.name ≠ d.name →
      ∃ ds, g.resolve = .error (.rejected ds) ∧ ⟨.error, .duplicateName d.simple d.name d₂.name⟩ ∈ ds) := by
  constructor
  · intro res hres t ht hname
    -- the target is assembled from the root's own declaration, which is therefore eligible
    obtain ⟨m, hm⟩ := assembled_of_resolve hr hres (Registry.lookup?_mem hl) ht hname
    have he : Eligible g.registry d := (assembled?_isSome_iff m).mp (by rw [hm]; rfl)
    have hrun : t ∈ (Discovery.resolveAll g.registry (pre ++ root :: post) [] {}).1 := by
      rw [← hroots]
      rw [resolve_types hres] at ht
      exact (byName_perm (Discovery.resolveAll_scopeGrowth _ _ {}).nodup).mem_iff.mp ht
    have hsimple : t.simple = d.simple := by simp [Target.simple, Decl.simple, hname]
    exact (Discovery.resolveAll_root_annotated hr hl he hfree hrun hsimple).2
  · rintro he mid root₂ post₂ d₂ rfl hl₂ hsimple hne
    have hmem : ⟨.error, .duplicateName d.simple d.name d₂.name⟩ ∈
        (Discovery.resolveAll g.registry (pre ++ root :: (mid ++ root₂ :: post₂)) [] {}).2.diagnostics :=
      Discovery.resolveAll_duplicate_roots hr hl he hfree hl₂ hsimple hne
    rw [← hroots] at hmem
    exact ⟨_, resolve_of_error hmem, hmem⟩

end Generator

def billingAccount : Decl := { name := "crate::billing::Account" }

def authAccount : Decl := { name := "crate::auth::Account" }

def accountRoots : Generator where
  registry := { decls := [billingAccount, authAccount], roots := [billingAccount.name, authAccount.name] }

theorem accountRoots_collide :
    accountRoots.registry.WellFormed ∧ Eligible accountRoots.registry billingAccount ∧
      ∃ ds, accountRoots.resolve = .error (.rejected ds) ∧
        ⟨.error, .duplicateName "Account" "crate::billing::Account" "crate::auth::Account"⟩ ∈ ds := by
  have hr : accountRoots.registry.WellFormed := by decide
  have he : Eligible accountRoots.registry billingAccount :=
    eligible_iff.mpr ⟨by decide, Target.ineligibility?_eq_none_iff.mpr ⟨.inl rfl, rfl, by simp [billingAccount]⟩⟩
  have hl : accountRoots.registry.lookup? billingAccount.name = some billingAccount := rfl
  have hl₂ : accountRoots.registry.lookup? authAccount.name = some authAccount := rfl
  have hroots : accountRoots.registry.roots = [] ++ billingAccount.name :: [authAccount.name] := rfl
  have hcollide := (Generator.resolve_annotated_roots accountRoots hr hroots hl
    (fun _ h => absurd h Discovery.not_generated_nil)).2 he [] authAccount.name [] authAccount rfl hl₂
    (by decide) (by decide)
  exact ⟨hr, he, hcollide⟩

def ledger : Decl := { name := "crate::Ledger", members := [{ name := "entry", ty := .simpleRef "crate::billing::Entry" }] }

def ledgerRoots : Generator where
  registry := { decls := [ledger, { name := "crate::billing::Entry" }, { name := "crate::audit::Entry" }],
                roots := ["crate::Ledger", "crate::billing::Entry", "crate::audit::Entry"] }

/-- The ledger reaches the billing entry before that entry's own turn, so the entry is generated
as discovered; the audit entry then finds its simple name taken by a type that was not annotated
and is dropped without a diagnostic. The run succeeds. -/
theorem ledgerRoots_resolve :
    ∃ res, ledgerRoots.resolve = .ok res ∧ res.diagnostics = [] ∧
      ∃ t ∈ res.types, t.name = "crate::billing::Entry" ∧ t.origin = .discovered := by
  have hrun : ((Discovery.resolveAll ledgerRoots.registry ledgerRoots.registry.roots [] {}).2.diagnostics.length,
      (Discovery.resolveAll ledgerRoots.registry ledgerRoots.registry.roots [] {}).1.map fun t => (t.name, t.origin)) =
      (0, [("crate::Ledger", .annotated), ("crate::billing::Entry", .discovered)]) := by
    decide +kernel
  obtain ⟨hlen, htargets⟩ := Prod.mk.inj hrun
  have hdiag := List.length_eq_zero_iff.mp hlen
  have hok : ledgerRoots.resolve =
      .ok ⟨Generator.byName (Discovery.resolveAll ledgerRoots.registry ledgerRoots.registry.roots [] {}).1, []⟩ := by
    rw [Generator.resolve_of_no_errors (by simp [Discovery.hasErrors, hdiag]), hdiag]
  obtain ⟨t, ht, hv⟩ := List.mem_map.mp (htargets ▸ List.mem_cons_of_mem _ (List.mem_singleton_self _) :
    ("crate::billing::Entry", TargetOrigin.discovered) ∈
      (Discovery.resolveAll ledgerRoots.registry ledgerRoots.registry.roots [] {}).1.map fun t => (t.name, t.origin))
  obtain ⟨hname, horigin⟩ := Prod.mk.inj hv
  refine ⟨_, hok, rfl, t, ?_, hname, horigin⟩
  exact (Generator.byName_perm (Discovery.resolveAll_scopeGrowth _ _ {}).nodup).mem_iff.mpr ht

end TypeBridge
