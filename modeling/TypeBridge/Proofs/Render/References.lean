import TypeBridge.Proofs.Render.Failures
/-!
# Names the declaration file refers to

With the default hooks, every name the type text writes through the scope is a definition of
the file, and every name written as a parameter or type variable is a type parameter of its
interface (`generate_references`). Supertypes after `extends` do not go through the scope, so an
ineligible one is named but never defined (`localBase_dangling_extends`).
-/

namespace TypeBridge

/-! ### Names of their own -/

namespace TypeText

/-- The rules of the type text that write a node by a name of its own. -/
inductive NameRule where
  | inScope
  | returnsVar
  | typeVariable
deriving DecidableEq, Repr

/-- The rule that writes the node `w` by a name of its own, with that name; none when a custom
rule matches, for a wildcard, and where the node is a scalar, a collection or unknown. The rules
are tried in the order `node` tries them. -/
def nameRule? (ctx : Context) (w : Wrapped) : Option (NameRule × String) :=
  match Rule.firstMatch? ctx.rules w with
  | some _ => none
  | none =>
    if w.ty.isWildcard then none
    else match w.display? with
      | some n =>
        if ctx.scope.contains n then some (.inScope, n)
        else if w.returnsVar then some (.returnsVar, n)
        else if w.ty.isVar && ctx.vars.contains n then some (.typeVariable, n)
        else none
      | none => none

theorem nameRule?_spec {ctx : Context} {w : Wrapped} {k : NameRule} {n : String}
    (h : nameRule? ctx w = some (k, n)) :
    w.display? = some n ∧
      match k with
      | .inScope => n ∈ ctx.scope
      | .returnsVar => w.returnsVar = true
      | .typeVariable => n ∈ ctx.vars := by
  unfold nameRule? at h
  split at h
  · cases h
  · split at h
    · cases h
    · split at h
      · rename_i n' hd
        split at h
        · cases h
          exact ⟨hd, List.contains_iff_mem.mp ‹_›⟩
        · split at h
          · cases h
            exact ⟨hd, ‹_›⟩
          · split at h
            · cases h
              exact ⟨hd, List.contains_iff_mem.mp (Bool.and_eq_true_iff.mp ‹_›).2⟩
            · cases h
      · cases h

/-- A node written by a name of its own begins with that name. -/
theorem node_of_nameRule? {ctx : Context} {w : Wrapped} {k : NameRule} {n : String}
    (h : nameRule? ctx w = some (k, n)) (texts : Keyed String) :
    ∃ rest, node ctx w texts = n ++ rest := by
  -- the two functions test the same conditions in the same order; follow them case by case
  unfold nameRule? at h
  unfold node
  cases hm : Rule.firstMatch? ctx.rules w with
  | some _ =>
    rw [hm] at h
    cases h
  | none =>
    rw [hm] at h
    dsimp only at h ⊢
    by_cases hw : w.ty.isWildcard = true
    · rw [if_pos hw] at h
      cases h
    rw [if_neg hw] at h ⊢
    cases hd : w.display? with
    | none =>
      rw [hd] at h
      cases h
    | some n' =>
      rw [hd] at h
      dsimp only at h ⊢
      have hargs : ∀ x, (if w.parameters.isEmpty = true then n' else n' ++ "<" ++ x ++ ">") =
          n' ++ (if w.parameters.isEmpty = true then "" else "<" ++ x ++ ">") := by
        intro x
        split
        · exact String.append_empty.symm
        · simp only [String.append_assoc]
      by_cases hs : ctx.scope.contains n' = true
      · rw [if_pos hs] at h ⊢
        cases h
        exact ⟨_, hargs _⟩
      rw [if_neg hs] at h ⊢
      by_cases hr : w.returnsVar = true
      · rw [if_pos hr] at h ⊢
        cases h
        exact ⟨"", String.append_empty.symm⟩
      rw [if_neg hr] at h ⊢
      by_cases hv : (w.ty.isVar && ctx.vars.contains n') = true
      · rw [if_pos hv] at h ⊢
        cases h
        exact ⟨_, hargs _⟩
      rw [if_neg hv] at h
      cases h

end TypeText

/-! ### Nodes that read back a parameter -/

namespace Wrapped

variable (r : Registry)

theorem nodes_eq (w : Wrapped) : w.nodes = w :: (nodesAll w.parameters ++ nodesAll w.bounds) := by
  cases w
  rfl

theorem mem_nodesAll {ps : List (String × Wrapped)} {v : Wrapped} :
    v ∈ nodesAll ps ↔ ∃ e ∈ ps, v ∈ e.2.nodes := by
  induction ps with
  | nil => simp [nodesAll]
  | cons e ps ih =>
    obtain ⟨k, w⟩ := e
    simp [nodesAll, ih]

theorem nodes_of_mem_bounds {w b : Wrapped} (hb : b ∈ Keyed.values w.bounds) {v : Wrapped} (hv : v ∈ b.nodes) :
    v ∈ w.nodes := by
  obtain ⟨e, he, rfl⟩ := List.mem_map.mp hb
  rw [nodes_eq]
  exact List.mem_cons_of_mem _ (List.mem_append_right _ (mem_nodesAll.mpr ⟨e, he, hv⟩))

theorem classifyNode_bounds (w : Wrapped) : (classifyNode r w).bounds = w.bounds := by
  unfold classifyNode
  split <;> rfl

def view (v : Wrapped) : TypeRef × Bool := (v.ty, v.returnsVar)

mutual

theorem nodes_classify : ∀ w : Wrapped, (w.classify r).nodes.map view = w.nodes.map view
  | ⟨ty, site, use, anns, ps, bs, orig, shape, rv⟩ => by
    rw [classify_eq, nodes_eq, nodes_eq ⟨ty, site, use, anns, ps, bs, orig, shape, rv⟩,
      classifyNode_parameters, classifyNode_bounds]
    simp only [List.map_cons, List.map_append, nodesAll_classifyAll ps, nodesAll_classifyAll bs]
    simp only [view, classifyNode_ty, classifyNode_returnsVar]

theorem nodesAll_classifyAll : ∀ ps : List (String × Wrapped),
    (nodesAll (classifyAll r ps)).map view = (nodesAll ps).map view
  | [] => rfl
  | (_, w) :: rest => by
    simp only [classifyAll, nodesAll, List.map_append, nodes_classify w, nodesAll_classifyAll rest]

end

mutual

theorem build_returnsVar (site : Option TypeRef) (use : UseSite) (anns : List String) :
    ∀ τ : TypeRef, ∀ v ∈ (build site use anns τ).nodes, v.returnsVar = false
  | .named n args b, v, hv => by
    rw [build, nodes_eq] at hv
    rcases List.mem_cons.mp hv with rfl | hv
    · rfl
    · -- the parameters are the arguments, each wrapped once
      rcases List.mem_append.mp hv with hv | hv
      · obtain ⟨e, he, hv⟩ := mem_nodesAll.mp hv
        exact buildArgs_returnsVar _ args e (Keyed.mem_ofListFirst he) v hv
      · cases hv
  | .var n bs b, v, hv => by
    rw [build, nodes_eq] at hv
    rcases List.mem_cons.mp hv with rfl | hv
    · rfl
    · rcases List.mem_append.mp hv with hv | hv
      · cases hv
      · obtain ⟨e, he, hv⟩ := mem_nodesAll.mp hv
        split at he
        · exact buildBounds_returnsVar bs e (Keyed.mem_ofListFirst he) v hv
        · cases he
  | .wildcard b, v, hv => by
    simp only [build, nodes_eq, nodesAll, List.append_nil, List.mem_singleton] at hv
    subst hv
    rfl
  | .verbatim t b, v, hv => by
    simp only [build, nodes_eq, nodesAll, List.append_nil, List.mem_singleton] at hv
    subst hv
    rfl

theorem buildArgs_returnsVar : ∀ (sites args : List TypeRef),
    ∀ e ∈ buildArgs sites args, ∀ v ∈ e.2.nodes, v.returnsVar = false
  | _, [], e, he, _, _ => by cases he
  | s :: ss, a :: as, e, he, v, hv => by
    rcases List.mem_cons.mp he with rfl | he
    · exact build_returnsVar (some s) .typeVariable [] a v hv
    · exact buildArgs_returnsVar ss as e he v hv
  | [], a :: as, e, he, v, hv => by
    rcases List.mem_cons.mp he with rfl | he
    · exact build_returnsVar none .typeVariable [] a v hv
    · exact buildArgs_returnsVar [] as e he v hv

theorem buildBounds_returnsVar : ∀ bs : List TypeRef,
    ∀ e ∈ buildBounds bs, ∀ v ∈ e.2.nodes, v.returnsVar = false
  | [], e, he, _, _ => by cases he
  | b :: bs, e, he, v, hv => by
    rcases List.mem_cons.mp he with rfl | he
    · exact build_returnsVar none .bound [] b v hv
    · exact buildBounds_returnsVar bs e he v hv

end

variable {r}

def ReturnsParam (params : List String) (w : Wrapped) : Prop :=
  ∀ v ∈ w.nodes, v.returnsVar = true → ∀ n, v.display? = some n → n ∈ params

variable {params : List String} {w : Wrapped}

theorem ReturnsParam.classify (h : ReturnsParam params w) : ReturnsParam params (w.classify r) := by
  intro v hv hrv n hn
  have hmem : view v ∈ w.nodes.map view := by
    rw [← nodes_classify r w]
    exact List.mem_map_of_mem hv
  obtain ⟨u, hu, heq⟩ := List.mem_map.mp hmem
  have hty : u.ty = v.ty := congrArg Prod.fst heq
  have hflag : u.returnsVar = v.returnsVar := congrArg Prod.snd heq
  exact h u hu (hflag.trans hrv) n (by rw [display?, hty]; exact hn)

theorem ReturnsParam.bound (h : ReturnsParam params w) {b : Wrapped} (hb : b ∈ Keyed.values w.bounds) :
    ReturnsParam params b :=
  fun v hv => h v (nodes_of_mem_bounds hb hv)

theorem returnsParam_build (site : Option TypeRef) (use : UseSite) (anns : List String) (τ : TypeRef) :
    ReturnsParam params (build site use anns τ) := by
  intro v hv hrv
  rw [build_returnsVar site use anns τ v hv] at hrv
  cases hrv

end Wrapped

/-! ### What an interface writes -/

namespace Target

variable {r : Registry} {S : Decl} {mode : Mode} {t : Target}

def writtenTypes (t : Target) : List Wrapped :=
  (t.members.values.filter (·.role == .property)).map (·.ty) ++
    t.typeVariables.values.flatMap (fun w => Keyed.values w.bounds) ++
    t.supertypes.flatMap (·.arguments)

theorem struct_of_assembled? (h : assembled? r S mode = some t) (hk : t.kind = .interface) :
    S.kind = .struct := by
  have he : Eligible r S := (assembled?_isSome_iff mode).mp (by rw [h]; rfl)
  rcases he.shape with hs | hs
  · exact hs
  · -- the target of an enum is an enum
    unfold assembled? assemble at h
    have he' : (S.kind == .enum) = true := by rw [hs]; rfl
    simp only [he.not_pair, he.ineligibility?_eq_none, he', beq_iff_eq, if_false, if_true] at h
    cases h
    cases hk

theorem assembled?_supertypes (h : assembled? r S mode = some t) (hk : S.kind = .struct) :
    t.supertypes = (structSupertypes r S).map (applied r) := by
  have he : Eligible r S := (assembled?_isSome_iff mode).mp (by rw [h]; rfl)
  unfold assembled? assemble at h
  have hne : (S.kind == .enum) = false := by rw [hk]; rfl
  simp only [he.not_pair, he.ineligibility?_eq_none, hne, beq_iff_eq, if_false, Bool.false_eq_true] at h
  cases h
  rw [applySupertypes_fst, List.nil_append]

theorem mem_argWrappers {params : List TypeParam} {args : List TypeRef} {x : Wrapped}
    (hx : x ∈ argWrappers params args) : ∃ site τ, x = Wrapped.build site .typeVariable [] τ := by
  induction args generalizing params with
  | nil => simp at hx
  | cons a as ih =>
    cases params with
    | nil =>
      rcases List.mem_cons.mp hx with rfl | hx
      · exact ⟨none, a, rfl⟩
      · exact ih hx
    | cons p ps =>
      rcases List.mem_cons.mp hx with rfl | hx
      · exact ⟨some p.asTypeRef, a, rfl⟩
      · exact ih hx

theorem returnsParam_propertyType (d : Decl) (m : Member) :
    Wrapped.ReturnsParam (d.typeParams.map (·.name)) (propertyType d m) := by
  unfold propertyType
  dsimp only
  split
  · rename_i hc
    intro v hv hrv n hn
    rw [Wrapped.nodes_eq] at hv
    rcases List.mem_cons.mp hv with rfl | hv
    · -- the field's own node is marked only when its name is a parameter
      have hn' : (Wrapped.property m.ty m.annotations).display? = some n := hn
      rw [hn', Option.map_some, Option.getD_some, FieldText.hasTypeParam_eq] at hc
      exact List.contains_iff_mem.mp hc
    · -- nested nodes are wrapped afresh and never marked
      have hin : v ∈ (Wrapped.property m.ty m.annotations).nodes := by
        rw [Wrapped.nodes_eq]
        exact List.mem_cons_of_mem _ hv
      rw [Wrapped.build_returnsVar _ _ _ _ v hin] at hrv
      cases hrv
  · exact Wrapped.returnsParam_build _ _ _ _

theorem writtenTypes_returnsParam (h : assembled? r S mode = some t) (hk : t.kind = .interface) :
    ∀ w ∈ t.writtenTypes, Wrapped.ReturnsParam t.typeVariables.keys w := by
  have hS := struct_of_assembled? h hk
  obtain ⟨-, hmembers, hvars⟩ := assembled?_struct h hS
  -- first within the declaration's parameters, then among the target's type variables
  suffices hps : ∀ w ∈ t.writtenTypes, Wrapped.ReturnsParam (S.typeParams.map (·.name)) w from
    fun w hw v hv hrv n hn => mem_typeVariables_keys h hS (hps w hw v hv hrv n hn)
  intro w hw
  simp only [writtenTypes, List.mem_append, List.mem_map, List.mem_filter, List.mem_flatMap] at hw
  rcases hw with (⟨m, ⟨hm, -⟩, rfl⟩ | ⟨tv, htv, hb⟩) | ⟨a, ha, hx⟩
  · obtain ⟨e, he, rfl⟩ := List.mem_map.mp hm
    rw [hmembers] at he
    rcases Keyed.mem_foldl_upsert _ _ _ he with he | ⟨x, -, rfl⟩
    · cases he
    · exact (returnsParam_propertyType S x).classify
  · obtain ⟨e, he, rfl⟩ := List.mem_map.mp htv
    rw [hvars] at he
    rcases Keyed.mem_foldl_insertNew _ _ _ he with he | ⟨p, -, rfl⟩
    · cases he
    · exact (Wrapped.returnsParam_build _ _ _ _).classify.bound hb
  · rw [assembled?_supertypes h hS] at ha
    obtain ⟨sup, -, rfl⟩ := List.mem_map.mp ha
    simp only [applied] at hx
    obtain ⟨x, hxa, rfl⟩ := List.mem_map.mp hx
    obtain ⟨site, τ, rfl⟩ := mem_argWrappers hxa
    exact (Wrapped.returnsParam_build _ _ _ _).classify

end Target

/-! ### The names of the file -/

namespace Generator

variable {g : Generator} {res : Resolution} {out : String} {t : Target}

def Emits (g : Generator) (res : Resolution) (out : String) (t : Target) : Prop :=
  t ∈ res.types ∧ ∃ s, g.emitter.definition (res.types.map Target.simple) t = .ok s ∧
    ∃ a c, out = a ++ s ++ c

theorem emits_of_mem (hconstrain : g.config.constrain = false) (hout : g.generate = .ok out)
    (hres : g.resolve = .ok res) (ht : t ∈ res.types) : g.Emits res out t := by
  have hemit : g.emitter.emits g.registry.roots t = true := by
    simp [Emitter.emits, emitter, hconstrain]
  obtain ⟨s, hs, hin⟩ := Emitter.document_definition (document_of_generate hout hres) ht hemit
  exact ⟨ht, s, hs, hin⟩

/-- With the default hooks and without the constraint to the roots' modules, the names an
interface of the file refers to are defined by the file. A name the type text writes through
the scope is the name of a definition of the file; one it writes as a parameter or a type
variable is a type parameter of the interface. A supertype after `extends` is a definition of
the file when the declarations the run touches have distinct simple names and the supertype's
declaration is eligible. -/
theorem generate_references (g : Generator) (hr : g.registry.WellFormed)
    (hname : g.hooks.definitionName = Path.simple)
    (hsup : g.hooks.supertypeName = fun path _ => Path.simple path)
    (hconstrain : g.config.constrain = false) (hout : g.generate = .ok out)
    (hres : g.resolve = .ok res) (ht : t ∈ res.types) (hk : t.kind = .interface) :
    (DistinctNames g.registry g.registry.roots → ∀ a ∈ t.supertypes,
      (∀ d, g.registry.lookup? a.name = some d → Eligible g.registry d) →
      ∃ t', g.Emits res out t' ∧ t'.kind = .interface ∧
        g.hooks.definitionName t'.name = g.hooks.supertypeName a.name g.config.moduleName) ∧
    ∀ w ∈ t.writtenTypes, ∀ v ∈ w.nodes, ∀ k n,
      TypeText.nameRule? ⟨g.rules, res.types.map Target.simple, t.typeVariables.keys⟩ v = some (k, n) →
      (k = .inScope → ∃ t', g.Emits res out t' ∧ g.hooks.definitionName t'.name = n) ∧
      (k ≠ .inScope → n ∈ t.typeVariables.keys) := by
  obtain ⟨d, hgen, m, hm⟩ := sound_of_resolve hr hres ht
  refine ⟨fun hdist a ha hel => ?_, fun w hw v hv k n hrule => ?_⟩
  · -- the supertype is a struct other than `d`, so an eligible one is generated with it
    have hS := Target.struct_of_assembled? hm hk
    rw [Target.assembled?_supertypes hm hS] at ha
    obtain ⟨⟨ty, sup⟩, hsup', rfl⟩ := List.mem_map.mp ha
    obtain ⟨st, ⟨hst, hdata, hany⟩, ⟨c, hc, hl⟩, ⟨hsk, hne⟩, rfl⟩ :=
      Target.mem_structSupertypes.mp hsup'
    have hsucc : Successor g.registry d sup :=
      .supertype hst hdata hc (fun h => hany (h ▸ hc)) hl hsk hne
    have hsupel : Eligible g.registry sup :=
      hel sup (Registry.lookup?_name hr (Registry.lookup?_mem hl))
    obtain ⟨t', ht', m', hm'⟩ := Discovery.resolveAll_complete hr hdist (.step hgen hS hsucc hsupel)
    have hperm := byName_perm (Discovery.resolveAll_scopeGrowth g.registry g.registry.roots {}).nodup
    have ht'' : t' ∈ res.types := by
      rw [resolve_types hres]
      exact hperm.mem_iff.mpr ht'
    refine ⟨t', emits_of_mem hconstrain hout hres ht'', (Target.assembled?_struct hm' hsk).1, ?_⟩
    rw [hname, hsup, Target.assembled?_name _ _ hm']
    rfl
  · obtain ⟨hd, hwhy⟩ := TypeText.nameRule?_spec hrule
    cases k with
    | inScope =>
      refine ⟨fun _ => ?_, fun h => absurd rfl h⟩
      obtain ⟨t', ht', hsimple⟩ := List.mem_map.mp hwhy
      exact ⟨t', emits_of_mem hconstrain hout hres ht', by rw [hname]; exact hsimple⟩
    | returnsVar =>
      exact ⟨nofun, fun _ => Target.writtenTypes_returnsParam hm hk w hw v hv hwhy n hd⟩
    | typeVariable => exact ⟨nofun, fun _ => hwhy⟩

def baseDecl : Decl where
  name := "crate::Base"
  members := [{ name := "y", ty := .named "u8" [] false }]

def childDecl : Decl where
  name := "crate::Child"
  members := [{ name := "x", ty := .named "u8" [] false }]
  supertypes := [⟨.named "crate::Base" [] false, .data⟩]

def childGenerator : Generator where
  registry := { decls := [baseDecl, childDecl], roots := [childDecl.name] }

theorem childGenerator_references :
    childGenerator.registry.WellFormed ∧
      DistinctNames childGenerator.registry childGenerator.registry.roots ∧
      ∃ out res, childGenerator.generate = .ok out ∧ childGenerator.resolve = .ok res ∧
        ∃ t ∈ res.types, t.name = childDecl.name ∧ t.kind = .interface ∧
          ∃ a ∈ t.supertypes, ∃ t', childGenerator.Emits res out t' ∧ t'.kind = .interface ∧
            childGenerator.hooks.definitionName t'.name = "Base" := by
  have hr : childGenerator.registry.WellFormed := by decide
  have hdist : DistinctNames childGenerator.registry childGenerator.registry.roots :=
    distinctNames_of_nodup (by decide)
  have hres := resolve_of_no_errors (g := childGenerator) (by decide +kernel)
  obtain ⟨out, hout⟩ := generate_of_resolve_ok hres
  -- the run answers `Child`, which extends `Base`, and then `Base`
  have hrun : (Discovery.resolveAll childGenerator.registry childGenerator.registry.roots [] {}).1.map
      (fun t => (t.name, t.kind, t.supertypes.map AppliedType.name)) =
      [(childDecl.name, .interface, [baseDecl.name]), (baseDecl.name, .interface, [])] := by
    decide +kernel
  obtain ⟨t, ht, hprops⟩ := List.mem_map.mp (hrun ▸ List.mem_cons_self :
    (childDecl.name, TargetKind.interface, [baseDecl.name]) ∈ _)
  simp only [Prod.mk.injEq] at hprops
  obtain ⟨hname, hk, hsups⟩ := hprops
  have hperm := byName_perm
    (Discovery.resolveAll_scopeGrowth childGenerator.registry childGenerator.registry.roots {}).nodup
  have ht' : t ∈ byName (Discovery.resolveAll childGenerator.registry
      childGenerator.registry.roots [] {}).1 := hperm.mem_iff.mpr ht
  obtain ⟨a, ha, haname⟩ := List.mem_map.mp (hsups ▸ List.mem_singleton_self baseDecl.name)
  have hel : ∀ d, childGenerator.registry.lookup? a.name = some d → Eligible childGenerator.registry d := by
    intro d hd
    rw [haname] at hd
    cases (show childGenerator.registry.lookup? baseDecl.name = some baseDecl from rfl).symm.trans hd
    exact eligible_iff.mpr ⟨by decide, Target.ineligibility?_eq_none_iff.mpr ⟨.inl rfl, rfl, by simp [baseDecl]⟩⟩
  obtain ⟨t', hemit, hk', hdef⟩ :=
    (generate_references childGenerator hr rfl rfl rfl hout hres ht' hk).1 hdist a ha hel
  refine ⟨hr, hdist, out, _, hout, hres, t, ht', hname, hk, a, ha, t', hemit, hk', ?_⟩
  rw [hdef, haname]
  rfl

def localBase : Decl where
  name := "crate::make::Base"
  origin := .inFunction
  members := [{ name := "y", ty := .named "u8" [] false }]

def localBaseGenerator : Generator :=
  ((({} : Generator).registerDecl localBase).registerDecl childDecl).addRoot childDecl.name

/-- The interface of `Child` extends `Base`, which the file never defines: the local struct is
not generated, and only a warning says so. -/
theorem localBase_dangling_extends :
    localBaseGenerator.generate = .ok
      "/* generated @ 0 */\ndeclare module \"NativeTypes\" \x7b\n  interface Child extends Base \x7b\n    x: number;\n  \x7d\n\x7d\n" ∧
      ∃ res, localBaseGenerator.resolve = .ok res ∧
        (∃ t ∈ res.types, ∃ a ∈ t.supertypes,
          localBaseGenerator.hooks.supertypeName a.name localBaseGenerator.config.moduleName = "Base") ∧
        ∀ t ∈ res.types, localBaseGenerator.hooks.definitionName t.name ≠ "Base" := by
  have hout := Except.toOption_eq_some.mp (by decide +kernel :
    localBaseGenerator.generate.toOption = some
      "/* generated @ 0 */\ndeclare module \"NativeTypes\" \x7b\n  interface Child extends Base \x7b\n    x: number;\n  \x7d\n\x7d\n")
  have hrun : localBaseGenerator.resolve.toOption.map
      (fun res => res.types.map fun t => (t.name, t.supertypes.map AppliedType.name)) =
      some [(childDecl.name, [localBase.name])] := by
    decide +kernel
  obtain ⟨res, hres, htypes⟩ := Option.map_eq_some_iff.mp hrun
  refine ⟨hout, res, Except.toOption_eq_some.mp hres, ?_, fun t ht => ?_⟩
  · obtain ⟨t, ht, hprops⟩ := List.mem_map.mp (htypes ▸ List.mem_singleton_self _ :
      (childDecl.name, [localBase.name]) ∈ _)
    obtain ⟨a, ha, haname⟩ := List.mem_map.mp
      ((Prod.mk.inj hprops).2 ▸ List.mem_singleton_self localBase.name)
    exact ⟨t, ht, a, ha, by rw [haname]; rfl⟩
  · -- the only target is `Child`
    have hmem := List.mem_map_of_mem (f := fun t => (t.name, t.supertypes.map AppliedType.name)) ht
    rw [htypes, List.mem_singleton, Prod.mk.injEq] at hmem
    show Path.simple t.name ≠ "Base"
    rw [hmem.1]
    decide

end Generator

end TypeBridge
