import TypeBridge.Proofs.Wrapped.Build
import TypeBridge.Proofs.Render.NodeText
/-!
# Recorded collection shapes

Every wrapper an assembled target holds is freshly built and classified against the registry,
so the shape recorded at each node is the one classifying it now would record
(`Wrapped.recordedShape`), and recomputing shapes on demand leaves the target unchanged
(`assemble_records_shapes`). A scalar is never classified (`lookupChild_scalar_unshaped`).
-/

namespace TypeBridge

namespace Wrapped

variable (r : Registry)

/-- The shape classifying a node records: none for a scalar, otherwise the shape the node has
against the registry. -/
def recordedShape (w : Wrapped) : Option CollectionShape :=
  if w.isPrimitive then none else some (w.shapeIn r)

def ShapesFrom (w : Wrapped) : Prop := ∀ n ∈ w.nodes, n.shape = n.recordedShape r

def Fresh (w : Wrapped) : Prop := ∀ n ∈ w.nodes, n.shape = none

mutual
/-- The wrapper with the shape of every node computed from the registry, as classifying it
afresh records it, in place of the shape it holds. -/
def reshape : Wrapped → Wrapped
  | ⟨ty, site, use, anns, ps, bs, orig, _, rv⟩ =>
    let w : Wrapped := ⟨ty, site, use, anns, reshapeAll ps, reshapeAll bs, orig, none, rv⟩
    { w with shape := w.recordedShape r }
def reshapeAll : List (String × Wrapped) → List (String × Wrapped)
  | [] => []
  | (k, w) :: rest => (k, reshape w) :: reshapeAll rest
end

/-! ### What classifying a node records -/

variable {r}

theorem recordedShape_congr {v w : Wrapped} (hty : v.ty = w.ty) (hsite : v.site = w.site)
    (horig : v.original = w.original) : v.recordedShape r = w.recordedShape r := by
  unfold recordedShape isPrimitive shapeIn mirror? canonical?
  rw [hty, hsite, horig]

theorem classify_site (w : Wrapped) : (w.classify r).site = w.site := by
  rw [classify_eq]
  unfold classifyNode
  split <;> rfl

theorem classify_original (w : Wrapped) : (w.classify r).original = w.original := by
  rw [classify_eq]
  unfold classifyNode
  split <;> rfl

theorem recordedShape_classify (w : Wrapped) : (w.classify r).recordedShape r = w.recordedShape r :=
  recordedShape_congr (by rw [classify_eq, classifyNode_ty]) (classify_site w) (classify_original w)

theorem classifyNode_shape_of_none {w : Wrapped} (h : w.shape = none) :
    (classifyNode r w).shape = w.recordedShape r := by
  unfold classifyNode recordedShape isClassified
  rw [h]
  by_cases hp : w.isPrimitive = true
  · simp [hp, h]
  · simp [hp]

theorem classify_shape_of_none {w : Wrapped} (h : w.shape = none) :
    (w.classify r).shape = (w.classify r).recordedShape r := by
  have h' : ({ w with parameters := classifyAll r w.parameters, bounds := classifyAll r w.bounds } :
      Wrapped).shape = none := h
  rw [recordedShape_classify, classify_eq, classifyNode_shape_of_none h']
  exact recordedShape_congr rfl rfl rfl

mutual

theorem nodes_classify_eq : ∀ w : Wrapped, (w.classify r).nodes = w.nodes.map (classify r)
  | ⟨ty, site, use, anns, ps, bs, orig, shape, rv⟩ => by
    rw [classify_eq, nodes_eq, nodes_eq ⟨ty, site, use, anns, ps, bs, orig, shape, rv⟩,
      classifyNode_parameters, classifyNode_bounds]
    simp only [List.map_cons, List.map_append, nodesAll_classifyAll_eq ps, nodesAll_classifyAll_eq bs]
    rw [classify_eq]

theorem nodesAll_classifyAll_eq : ∀ ps : List (String × Wrapped),
    nodesAll (classifyAll r ps) = (nodesAll ps).map (classify r)
  | [] => rfl
  | (_, w) :: rest => by
    simp only [classifyAll, nodesAll, List.map_append, nodes_classify_eq w, nodesAll_classifyAll_eq rest]

end

theorem Fresh.classify {w : Wrapped} (h : w.Fresh) : (w.classify r).ShapesFrom r := by
  intro n hn
  rw [nodes_classify_eq] at hn
  obtain ⟨v, hv, rfl⟩ := List.mem_map.mp hn
  exact classify_shape_of_none (h v hv)

theorem fresh_build (site : Option TypeRef) (use : UseSite) (anns : List String) (τ : TypeRef) :
    (build site use anns τ).Fresh := by
  intro n hn
  obtain ⟨site', use', anns', τ', rfl⟩ := nodes_build site use anns τ n hn
  exact build_shape site' use' anns' τ'

mutual

theorem ShapesFrom.reshape_eq : ∀ {w : Wrapped}, w.ShapesFrom r → w.reshape r = w
  | ⟨ty, site, use, anns, ps, bs, orig, shape, rv⟩, h => by
    have hps : reshapeAll r ps = ps := ShapesFrom.reshapeAll_eq fun e he n hn =>
      h n (by rw [nodes_eq]; exact List.mem_cons_of_mem _ (List.mem_append_left _ (mem_nodesAll.mpr ⟨e, he, hn⟩)))
    have hbs : reshapeAll r bs = bs := ShapesFrom.reshapeAll_eq fun e he n hn =>
      h n (by rw [nodes_eq]; exact List.mem_cons_of_mem _ (List.mem_append_right _ (mem_nodesAll.mpr ⟨e, he, hn⟩)))
    -- the node's own shape is what its type, site and original name give
    have hself : recordedShape r ⟨ty, site, use, anns, ps, bs, orig, none, rv⟩ = shape :=
      (recordedShape_congr rfl rfl rfl).trans (h _ List.mem_cons_self).symm
    simp only [reshape, hps, hbs, hself]

theorem ShapesFrom.reshapeAll_eq : ∀ {ps : List (String × Wrapped)}, (∀ e ∈ ps, e.2.ShapesFrom r) →
    reshapeAll r ps = ps
  | [], _ => rfl
  | (k, w) :: rest, h => by
    rw [reshapeAll, ShapesFrom.reshape_eq (h (k, w) List.mem_cons_self),
      ShapesFrom.reshapeAll_eq fun e he => h e (List.mem_cons_of_mem _ he)]

end

end Wrapped

/-! ### The wrappers of an assembled target -/

namespace Target

variable {r : Registry} {d : Decl} {mode : Mode} {t : Target}

def typeWrappers (t : Target) : List Wrapped :=
  t.typeVariables.values ++ (t.members.values.filter (·.role == .property)).map (·.ty) ++
    t.supertypes.flatMap (·.arguments)

/-- The target with every shape its wrappers hold computed on demand from the registry. -/
def reshape (r : Registry) (t : Target) : Target :=
  { t with
    typeVariables := t.typeVariables.map fun e => (e.1, e.2.reshape r)
    members := t.members.map fun e =>
      (e.1, if e.2.role = .property then { e.2 with ty := e.2.ty.reshape r } else e.2)
    supertypes := t.supertypes.map fun a => { a with arguments := a.arguments.map (Wrapped.reshape r) } }

theorem fresh_propertyType (d : Decl) (m : Member) : (propertyType d m).Fresh := by
  unfold propertyType
  dsimp only
  split
  · intro n hn
    rw [Wrapped.nodes_eq] at hn
    rcases List.mem_cons.mp hn with rfl | hn
    · exact Wrapped.build_shape _ _ _ _
    · -- the nested nodes are those of the field's own wrapper
      apply Wrapped.fresh_build _ _ _ m.ty
      rw [Wrapped.nodes_eq]
      exact List.mem_cons_of_mem _ hn
  · exact Wrapped.fresh_build _ _ _ _

theorem enumValues_role {e : String × TargetMember} (he : e ∈ enumValues d) : e.2.role = .enumValue := by
  unfold enumValues Keyed.ofListLast at he
  rcases Keyed.mem_foldl_upsert _ _ _ he with he | ⟨x, hx, rfl⟩
  · cases he
  · obtain ⟨v, -, rfl⟩ := List.mem_map.mp hx
    rfl

theorem typeWrappers_of_enum (h : assembled? r d mode = some t) (hS : d.kind = .enum) :
    t.typeWrappers = [] := by
  have hel : Eligible r d := (assembled?_isSome_iff mode).mp (by rw [h]; rfl)
  unfold assembled? assemble at h
  have he' : (d.kind == .enum) = true := by rw [hS]; rfl
  simp only [hel.not_pair, hel.ineligibility?_eq_none, he', beq_iff_eq, if_false, if_true] at h
  obtain rfl := Option.some.inj h
  have hvalues : ((enumValues d).map (·.2)).filter (·.role == .property) = [] :=
    List.filter_eq_nil_iff.mpr fun m hm => by
      obtain ⟨e, he, rfl⟩ := List.mem_map.mp hm
      rw [enumValues_role he]
      decide
  simp only [typeWrappers, Keyed.values, hvalues]
  rfl

theorem typeWrappers_classified_of_struct (h : assembled? r d mode = some t) (hS : d.kind = .struct) :
    ∀ w ∈ t.typeWrappers, ∃ w₀ : Wrapped, w₀.Fresh ∧ w = w₀.classify r := by
  obtain ⟨-, hmembers, hvars⟩ := assembled?_struct h hS
  intro w hw
  simp only [typeWrappers, List.mem_append, List.mem_map, List.mem_filter, List.mem_flatMap] at hw
  rcases hw with (htv | ⟨m, ⟨hm, -⟩, rfl⟩) | ⟨a, ha, hx⟩
  · obtain ⟨tv, hmem, rfl⟩ := List.mem_map.mp htv
    rw [hvars] at hmem
    rcases Keyed.mem_foldl_insertNew _ _ _ hmem with he | ⟨p, -, rfl⟩
    · cases he
    · exact ⟨_, Wrapped.fresh_build _ _ _ _, rfl⟩
  · obtain ⟨e, he, rfl⟩ := List.mem_map.mp hm
    rw [hmembers] at he
    rcases Keyed.mem_foldl_upsert _ _ _ he with he | ⟨x, -, rfl⟩
    · cases he
    · exact ⟨_, fresh_propertyType d x, rfl⟩
  · rw [assembled?_supertypes h hS] at ha
    obtain ⟨sup, -, rfl⟩ := List.mem_map.mp ha
    obtain ⟨x, hxa, rfl⟩ := List.mem_map.mp hx
    obtain ⟨site, τ, rfl⟩ := mem_argWrappers hxa
    exact ⟨_, Wrapped.fresh_build _ _ _ _, rfl⟩

theorem typeWrappers_classified (h : assembled? r d mode = some t) :
    ∀ w ∈ t.typeWrappers, ∃ w₀ : Wrapped, w₀.Fresh ∧ w = w₀.classify r := by
  have hel : Eligible r d := (assembled?_isSome_iff mode).mp (by rw [h]; rfl)
  rcases hel.shape with hS | hS
  · exact typeWrappers_classified_of_struct h hS
  · rw [typeWrappers_of_enum h hS]
    intro w hw
    cases hw

theorem reshape_eq (h : ∀ w ∈ t.typeWrappers, w.ShapesFrom r) : t.reshape r = t := by
  have hvars : ∀ e ∈ t.typeVariables, e.2.ShapesFrom r := fun e he =>
    h e.2 (List.mem_append_left _ (List.mem_append_left _ (List.mem_map_of_mem he)))
  have hmembers : ∀ e ∈ t.members, e.2.role = .property → e.2.ty.ShapesFrom r := fun e he hrole =>
    h e.2.ty (List.mem_append_left _ (List.mem_append_right _ (List.mem_map.mpr
      ⟨e.2, List.mem_filter.mpr ⟨List.mem_map_of_mem he, by rw [hrole]; rfl⟩, rfl⟩)))
  have hsups : ∀ a ∈ t.supertypes, ∀ x ∈ a.arguments, x.ShapesFrom r := fun a ha x hx =>
    h x (List.mem_append_right _ (List.mem_flatMap.mpr ⟨a, ha, hx⟩))
  obtain ⟨name, kind, origin, members, typeVariables, supertypes⟩ := t
  simp only [reshape, Target.mk.injEq, true_and]
  refine ⟨?_, ?_, ?_⟩
  · refine (List.map_congr_left fun e he => ?_).trans (List.map_id _)
    split
    · rename_i hrole
      rw [(hmembers e he hrole).reshape_eq]
      rfl
    · rfl
  · refine (List.map_congr_left fun e he => ?_).trans (List.map_id _)
    rw [(hvars e he).reshape_eq]
    rfl
  · refine (List.map_congr_left fun a ha => ?_).trans (List.map_id _)
    rw [(List.map_congr_left fun x hx => (hsups a ha x hx).reshape_eq).trans (List.map_id _)]
    rfl

end Target

/-- Take a declaration that assembly turns into a target. At every node of every wrapper the
target holds (its type variables with their bounds, the types of its properties and the
arguments it gives its supertypes), the node is classified exactly when it is no scalar, and
its collection shape is the one classification computes for it against the registry: no
collection for a scalar, otherwise `shapeIn`. So recomputing every shape on demand leaves the
target, and the text written for it, as they are. -/
theorem assemble_records_shapes {r : Registry} {d : Decl} {s : Discovery} {t : Target}
    (h : (Target.assemble r d s).1 = some t) :
    (∀ w ∈ t.typeWrappers, ∀ n ∈ w.nodes,
      n.isClassified = !n.isPrimitive ∧ n.collection = (if n.isPrimitive then .other else n.shapeIn r)) ∧
    t.reshape r = t ∧ ∀ (e : Emitter) (scope : List String), e.definition scope (t.reshape r) = e.definition scope t := by
  rw [Target.assemble_fst] at h
  have hshapes : ∀ w ∈ t.typeWrappers, w.ShapesFrom r := by
    intro w hw
    obtain ⟨w₀, hfresh, rfl⟩ := Target.typeWrappers_classified h w hw
    exact hfresh.classify
  have hre := Target.reshape_eq hshapes
  refine ⟨fun w hw n hn => ?_, hre, fun e scope => by rw [hre]⟩
  have hn' := hshapes w hw n hn
  unfold Wrapped.recordedShape at hn'
  by_cases hp : n.isPrimitive = true
  · simp [Wrapped.isClassified, Wrapped.collection, hn', hp]
  · simp [Wrapped.isClassified, Wrapped.collection, hn', hp]

/-! ### A scalar at a map-like parameter -/

def lookupTrait : Decl :=
  { name := "crate::Lookup", kind := .trait, supertypes := [⟨.named Known.mapFamily [] false, .interface⟩] }

def lookupParent : Decl :=
  { name := "crate::Parent", typeParams := [{ name := "M", bounds := [.named "crate::Lookup" [] false] }],
    members := [{ name := "m", ty := .var "M" [.named "crate::Lookup" [] false] false }] }

def lookupChild : Decl :=
  { name := "crate::Child", supertypes := [⟨.named "crate::Parent" [.named "u8" [] false] false, .data⟩] }

def lookupRegistry : Registry :=
  ((Registry.withBuiltins.register lookupTrait).register lookupParent).register lookupChild

/-- Assembling `Child` wraps `u8` at the parameter `M`, whose first bound `Lookup` is map-like:
the scalar's shape against the registry is a map, but it is recorded as no collection. So not
every node of an assembled target records the shape computed for it. -/
theorem lookupChild_scalar_unshaped :
    ¬ ∀ t, (Target.assemble lookupRegistry lookupChild {}).1 = some t →
      ∀ w ∈ t.typeWrappers, ∀ n ∈ w.nodes, n.collection = n.shapeIn lookupRegistry := by
  intro h
  have hrun : ((Target.assemble lookupRegistry lookupChild {}).1.map fun t =>
      t.typeWrappers.any fun w => w.nodes.any fun n =>
        n.isPrimitive && n.collection == .other && n.shapeIn lookupRegistry == .map) = some true := by
    decide +kernel
  obtain ⟨t, ht, hany⟩ := Option.map_eq_some_iff.mp hrun
  obtain ⟨w, hw, hnodes⟩ := List.any_eq_true.mp hany
  obtain ⟨n, hn, hscalar⟩ := List.any_eq_true.mp hnodes
  simp only [Bool.and_eq_true, beq_iff_eq] at hscalar
  have heq := h t ht w hw n hn
  rw [hscalar.1.2, hscalar.2] at heq
  cases heq

theorem lookupChild_reshape_eq :
    ∃ t, (Target.assemble lookupRegistry lookupChild {}).1 = some t ∧ t.reshape lookupRegistry = t := by
  obtain ⟨t, ht⟩ : ∃ t, (Target.assemble lookupRegistry lookupChild {}).1 = some t :=
    Option.isSome_iff_exists.mp (by decide +kernel)
  exact ⟨t, ht, (assemble_records_shapes ht).2.1⟩

end TypeBridge
