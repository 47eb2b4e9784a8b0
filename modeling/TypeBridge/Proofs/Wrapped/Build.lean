import TypeBridge.Proofs.Render.References
/-!
# How wrapped types are keyed

`WellKeyed` says of one node that its keys are the distinct display names of its arguments in
first-occurrence order, each holding the wrapper of the first argument with that key. Every node
`Wrapped.build` makes is well keyed (`build_nodes_keyed`).
-/

namespace TypeBridge

theorem List.getElem?_filterMap_of_isSome {α β : Type} {f : α → Option β} :
    ∀ {l : List α}, (∀ a ∈ l, (f a).isSome) → ∀ i : Nat, (l.filterMap f)[i]? = l[i]?.bind f
  | [], _, _ => rfl
  | a :: l, h, i => by
    obtain ⟨b, hb⟩ := Option.isSome_iff_exists.mp (h a List.mem_cons_self)
    rw [List.filterMap_cons_some hb]
    cases i with
    | zero => simp [hb]
    | succ i =>
      rw [List.getElem?_cons_succ, List.getElem?_cons_succ]
      exact List.getElem?_filterMap_of_isSome (fun x hx => h x (List.mem_cons_of_mem a hx)) i

/-! ### Keys of a list collected first-wins -/

namespace Keyed

variable {α : Type}

theorem foldl_insertNew_cons (x : String × α) : ∀ (xs acc : Keyed α),
    xs.foldl (fun (m : Keyed α) e => m.insertNew e.1 e.2) (x :: acc) =
      x :: (xs.filter (·.1 != x.1)).foldl (fun (m : Keyed α) e => m.insertNew e.1 e.2) acc
  | [], _ => rfl
  | e :: xs, acc => by
    by_cases hx : x.1 = e.1
    · -- the entry repeats the head's key: it is dropped on both sides
      have hc : contains (x :: acc) e.1 = true := by simp [contains, hx]
      rw [List.foldl_cons, insertNew, if_pos hc, foldl_insertNew_cons x xs acc]
      simp [hx]
    · have hc : contains (x :: acc) e.1 = contains acc e.1 := by simp [contains, hx]
      have hins : insertNew (x :: acc) e.1 e.2 = x :: insertNew acc e.1 e.2 := by
        unfold insertNew
        rw [hc]
        split <;> rfl
      rw [List.foldl_cons, hins, foldl_insertNew_cons x xs, List.filter_cons_of_pos (by simp [Ne.symm hx]),
        List.foldl_cons]

theorem ofListFirst_cons (x : String × α) (xs : Keyed α) :
    ofListFirst (x :: xs) = x :: ofListFirst (xs.filter (·.1 != x.1)) := by
  unfold ofListFirst
  rw [List.foldl_cons, insertNew, if_neg (by simp [contains])]
  exact foldl_insertNew_cons x xs []

theorem keys_ofListFirst : ∀ xs : Keyed α, keys (ofListFirst xs) = (xs.map (·.1)).eraseDups
  | [] => rfl
  | x :: xs => by
    have hmap : (xs.filter (·.1 != x.1)).map (·.1) = (xs.map (·.1)).filter (fun k => !k == x.1) := by
      rw [List.filter_map]
      rfl
    rw [ofListFirst_cons, keys_cons, keys_ofListFirst (xs.filter (·.1 != x.1)), hmap, List.map_cons,
      List.eraseDups_cons]
termination_by xs => xs.length
decreasing_by
  simp only [List.length_cons]
  exact Nat.lt_succ_of_le (List.length_filter_le _ _)

theorem ofListFirst_map {β : Type} (f : β → String) (g : β → α) (xs : List β) :
    keys (ofListFirst (xs.map fun x => (f x, g x))) = (xs.map f).eraseDups ∧
      ∀ k, get? (ofListFirst (xs.map fun x => (f x, g x))) k = (xs.find? (f · == k)).map g := by
  refine ⟨?_, fun k => ?_⟩
  · rw [keys_ofListFirst, List.map_map]
    rfl
  · rw [get?_ofListFirst, get?, List.find?_map, Option.map_map]
    rfl

end Keyed

/-! ### What `build` makes of one node -/

namespace TypeRef

def declaredBounds : TypeRef → List TypeRef
  | .var _ bs _ => bs
  | _ => []

end TypeRef

namespace Wrapped

def siteArgs (w : Wrapped) : List TypeRef := (w.site.map TypeRef.args).getD []

/-- The wrapper of the first argument of `w` whose key is `k`: that argument as a type
variable at the site argument of the same position, when the site has one. -/
def firstArgument? (w : Wrapped) (k : String) : Option Wrapped :=
  (w.ty.args.zipIdx.find? (·.1.key == k)).map fun p => build w.siteArgs[p.2]? .typeVariable [] p.1

def firstBound? (w : Wrapped) (k : String) : Option Wrapped :=
  (w.ty.declaredBounds.find? (·.key == k)).map (build none .bound [])

/-- One node keyed as `build` keys it: its parameters are the distinct keys of its arguments in
first-occurrence order, each holding the wrapper of the first argument with that key; it has
bounds only at a type-variable use site, the distinct keys of its declared bounds, each holding
the bound wrapper of the first bound with that key. -/
structure WellKeyed (w : Wrapped) : Prop where
  parameters_keys : Keyed.keys w.parameters = (w.ty.args.map TypeRef.key).eraseDups
  get?_parameters : ∀ k, Keyed.get? w.parameters k = w.firstArgument? k
  bounds_keys : Keyed.keys w.bounds =
    if w.use = .typeVariable then (w.ty.declaredBounds.map TypeRef.key).eraseDups else []
  get?_bounds : ∀ k, Keyed.get? w.bounds k = if w.use = .typeVariable then w.firstBound? k else none

theorem buildArgs_eq : ∀ sites args : List TypeRef,
    buildArgs sites args = args.mapIdx fun i a => (a.key, build sites[i]? .typeVariable [] a)
  | _, [] => rfl
  | s :: ss, a :: as => by
    rw [buildArgs, buildArgs_eq ss as, List.mapIdx_cons]
    simp
  | [], a :: as => by
    rw [buildArgs, buildArgs_eq [] as, List.mapIdx_cons]
    simp

theorem buildBounds_eq (bs : List TypeRef) : buildBounds bs = bs.map fun b => (b.key, build none .bound [] b) := by
  induction bs with
  | nil => rfl
  | cons b bs ih => rw [buildBounds, ih, List.map_cons]

@[simp] theorem build_site (site : Option TypeRef) (use : UseSite) (anns : List String) (τ : TypeRef) :
    (build site use anns τ).site = site := by
  cases τ <;> rfl

@[simp] theorem build_annotations (site : Option TypeRef) (use : UseSite) (anns : List String) (τ : TypeRef) :
    (build site use anns τ).annotations = anns := by
  cases τ <;> rfl

theorem keyed_buildArgs (sites args : List TypeRef) :
    Keyed.keys (Keyed.ofListFirst (buildArgs sites args)) = (args.map TypeRef.key).eraseDups ∧
      ∀ k, Keyed.get? (Keyed.ofListFirst (buildArgs sites args)) k =
        (args.zipIdx.find? (·.1.key == k)).map fun p => build sites[p.2]? .typeVariable [] p.1 := by
  rw [buildArgs_eq, List.mapIdx_eq_zipIdx_map]
  obtain ⟨hkeys, hget⟩ := Keyed.ofListFirst_map (fun p : TypeRef × Nat => p.1.key)
    (fun p => build sites[p.2]? .typeVariable [] p.1) args.zipIdx
  refine ⟨hkeys.trans ?_, hget⟩
  -- the keys of the indexed arguments are those of the arguments
  rw [show (fun p : TypeRef × Nat => p.1.key) = TypeRef.key ∘ Prod.fst from rfl, ← List.map_map,
    List.zipIdx_map_fst]

theorem keyed_buildBounds (bs : List TypeRef) :
    Keyed.keys (Keyed.ofListFirst (buildBounds bs)) = (bs.map TypeRef.key).eraseDups ∧
      ∀ k, Keyed.get? (Keyed.ofListFirst (buildBounds bs)) k =
        (bs.find? (·.key == k)).map (build none .bound []) := by
  rw [buildBounds_eq]
  exact Keyed.ofListFirst_map TypeRef.key (build none .bound []) bs

theorem wellKeyed_build (site : Option TypeRef) (use : UseSite) (anns : List String) (τ : TypeRef) :
    (build site use anns τ).WellKeyed := by
  cases τ with
  | named n args b =>
    obtain ⟨hkeys, hget⟩ := keyed_buildArgs ((site.map TypeRef.args).getD []) args
    refine ⟨hkeys, hget, ?_, fun k => ?_⟩
    · split <;> rfl
    · split <;> rfl
  | var n bs b =>
    obtain ⟨hkeys, hget⟩ := keyed_buildBounds bs
    -- bounds are kept at a type-variable use site only
    cases use with
    | typeVariable => exact ⟨rfl, fun _ => rfl, hkeys, hget⟩
    | property | enumValue | bound => exact ⟨rfl, fun _ => rfl, rfl, fun _ => rfl⟩
  | wildcard b => exact ⟨rfl, fun _ => rfl, by split <;> rfl, fun _ => by split <;> rfl⟩
  | verbatim t b => exact ⟨rfl, fun _ => rfl, by split <;> rfl, fun _ => by split <;> rfl⟩

/-! ### Every node is built -/

mutual

theorem nodes_build (site : Option TypeRef) (use : UseSite) (anns : List String) :
    ∀ τ : TypeRef, ∀ v ∈ (build site use anns τ).nodes, ∃ site' use' anns' τ', v = build site' use' anns' τ'
  | .named n args b, v, hv => by
    rw [build, nodes_eq] at hv
    rcases List.mem_cons.mp hv with rfl | hv
    · exact ⟨site, use, anns, .named n args b, by rw [build]⟩
    · rcases List.mem_append.mp hv with hv | hv
      · obtain ⟨e, he, hv⟩ := mem_nodesAll.mp hv
        exact nodes_buildArgs _ args e (Keyed.mem_ofListFirst he) v hv
      · cases hv
  | .var n bs b, v, hv => by
    rw [build, nodes_eq] at hv
    rcases List.mem_cons.mp hv with rfl | hv
    · exact ⟨site, use, anns, .var n bs b, by rw [build]⟩
    · rcases List.mem_append.mp hv with hv | hv
      · cases hv
      · obtain ⟨e, he, hv⟩ := mem_nodesAll.mp hv
        split at he
        · exact nodes_buildBounds bs e (Keyed.mem_ofListFirst he) v hv
        · cases he
  | .wildcard b, v, hv => by
    simp only [build, nodes_eq, nodesAll, List.append_nil, List.mem_singleton] at hv
    exact ⟨site, use, anns, .wildcard b, hv⟩
  | .verbatim t b, v, hv => by
    simp only [build, nodes_eq, nodesAll, List.append_nil, List.mem_singleton] at hv
    exact ⟨site, use, anns, .verbatim t b, hv⟩

theorem nodes_buildArgs : ∀ (sites args : List TypeRef), ∀ e ∈ buildArgs sites args,
    ∀ v ∈ e.2.nodes, ∃ site' use' anns' τ', v = build site' use' anns' τ'
  | _, [], e, he, _, _ => by cases he
  | s :: ss, a :: as, e, he, v, hv => by
    rcases List.mem_cons.mp he with rfl | he
    · exact nodes_build (some s) .typeVariable [] a v hv
    · exact nodes_buildArgs ss as e he v hv
  | [], a :: as, e, he, v, hv => by
    rcases List.mem_cons.mp he with rfl | he
    · exact nodes_build none .typeVariable [] a v hv
    · exact nodes_buildArgs [] as e he v hv

theorem nodes_buildBounds : ∀ bs : List TypeRef, ∀ e ∈ buildBounds bs,
    ∀ v ∈ e.2.nodes, ∃ site' use' anns' τ', v = build site' use' anns' τ'
  | [], e, he, _, _ => by cases he
  | b :: bs, e, he, v, hv => by
    rcases List.mem_cons.mp he with rfl | he
    · exact nodes_build none .bound [] b v hv
    · exact nodes_buildBounds bs e he v hv

end

/-! ### What lookups find -/

section Lookups

variable {w : Wrapped}

theorem firstArgument?_isSome {a : TypeRef} (ha : a ∈ w.ty.args) : (w.firstArgument? a.key).isSome := by
  rw [firstArgument?, Option.isSome_map, List.find?_isSome]
  obtain ⟨p, hp, rfl⟩ := List.mem_map.mp ((List.zipIdx_map_fst 0 w.ty.args).symm ▸ ha)
  exact ⟨p, hp, by simp⟩

theorem WellKeyed.parameterAt_of_lt (h : w.WellKeyed) {i : Nat} (hi : i < w.ty.args.length) :
    ∃ p, w.parameterAt i = .ok p ∧ w.firstArgument? w.ty.args[i].key = some p := by
  obtain ⟨p, hp⟩ := Option.isSome_iff_exists.mp (firstArgument?_isSome (List.getElem_mem hi))
  refine ⟨p, ?_, hp⟩
  have hne : w.ty.args.isEmpty = false := by
    rw [List.isEmpty_eq_false_iff]
    exact List.ne_nil_of_length_pos (Nat.lt_of_le_of_lt (Nat.zero_le i) hi)
  rw [parameterAt]
  simp only [hne, Bool.false_eq_true, if_false, List.getElem?_eq_getElem hi, h.get?_parameters, hp]

theorem parameterAt_of_nil (h : w.ty.args = []) (i : Nat) :
    w.parameterAt i = .error (.noParameters w.describe) := by
  simp [parameterAt, h]

theorem parameterAt_of_le (h : w.ty.args ≠ []) {i : Nat} (hi : w.ty.args.length ≤ i) :
    w.parameterAt i = .error (.indexOutOfRange w.describe i w.ty.args.length) := by
  have hne : w.ty.args.isEmpty = false := List.isEmpty_eq_false_iff.mpr h
  simp [parameterAt, hne, List.getElem?_eq_none hi]

theorem WellKeyed.arguments_eq (h : w.WellKeyed) :
    w.arguments = w.ty.args.filterMap fun a => w.firstArgument? a.key := by
  simp only [arguments, h.get?_parameters]

theorem WellKeyed.arguments_getElem? (h : w.WellKeyed) (i : Nat) :
    w.arguments[i]? = w.ty.args[i]?.bind fun a : TypeRef => w.firstArgument? a.key := by
  rw [h.arguments_eq]
  exact List.getElem?_filterMap_of_isSome (fun a ha => firstArgument?_isSome ha) i

theorem WellKeyed.arguments_length (h : w.WellKeyed) : w.arguments.length = w.ty.args.length := by
  rw [h.arguments_eq, List.filterMap_length_eq_length]
  exact fun a ha => firstArgument?_isSome ha

theorem bounds?_ok_iff : (∃ bs, w.bounds? = .ok bs) ↔ w.use = .typeVariable := by
  unfold bounds?
  by_cases hu : w.use = .typeVariable
  · simp [hu]
  · simp [hu]

end Lookups

/-- Every node of a wrapped type is keyed as `build` keys it, however the type was wrapped (as
a property, a type variable at a declaration site or without one, an enum value or a bound).
So asking for the argument at a position fails exactly when there are no arguments or the
position is past the last, and otherwise answers the wrapper of the first argument with that
position's key, never a missing key; the wrapped arguments come back one per position, each the
first argument with that position's key; and bounds can be asked of type variables only. -/
theorem build_nodes_keyed (site : Option TypeRef) (use : UseSite) (anns : List String) (τ : TypeRef) :
    ∀ n ∈ (build site use anns τ).nodes, n.WellKeyed ∧
      (∀ i, (n.ty.args = [] → n.parameterAt i = .error (.noParameters n.describe)) ∧
        (n.ty.args ≠ [] → n.ty.args.length ≤ i →
          n.parameterAt i = .error (.indexOutOfRange n.describe i n.ty.args.length)) ∧
        (∀ hi : i < n.ty.args.length,
          ∃ p, n.parameterAt i = .ok p ∧ n.firstArgument? n.ty.args[i].key = some p)) ∧
      n.arguments.length = n.ty.args.length ∧
      (∀ i : Nat, n.arguments[i]? = n.ty.args[i]?.bind fun a : TypeRef => n.firstArgument? a.key) ∧
      ((∃ bs, n.bounds? = .ok bs) ↔ n.use = .typeVariable) := by
  intro n hn
  obtain ⟨site', use', anns', τ', rfl⟩ := nodes_build site use anns τ n hn
  have h := wellKeyed_build site' use' anns' τ'
  exact ⟨h, fun i => ⟨fun hnil => parameterAt_of_nil hnil i, fun hne hle => parameterAt_of_le hne hle,
    fun hi => h.parameterAt_of_lt hi⟩, h.arguments_length, h.arguments_getElem?, bounds?_ok_iff⟩

def eitherField : Wrapped :=
  property (.named "crate::Either" [.named Known.vec [.named Known.string [] false] false,
    .named Known.vec [.named "u8" [] false] false] false) []

theorem eitherField_second_reads_first :
    eitherField ∈ eitherField.nodes ∧
      ∃ p, eitherField.parameterAt 1 = .ok p ∧
        p.ty = .named Known.vec [.named Known.string [] false] false ∧ p.site = some p.ty := by
  have hmem : eitherField ∈ eitherField.nodes := List.mem_cons_self
  obtain ⟨-, hat, -⟩ := build_nodes_keyed _ _ _ _ eitherField hmem
  obtain ⟨p, hp, hfirst⟩ := (hat 1).2.2 (by decide)
  have hwrapped : eitherField.firstArgument? "Vec" =
      some (typeVariableAt (.named Known.vec [.named Known.string [] false] false)
        (.named Known.vec [.named Known.string [] false] false)) := rfl
  rw [show eitherField.ty.args[1].key = "Vec" from rfl, hwrapped] at hfirst
  cases hfirst
  exact ⟨hmem, _, hp, rfl, rfl⟩

end Wrapped

end TypeBridge
