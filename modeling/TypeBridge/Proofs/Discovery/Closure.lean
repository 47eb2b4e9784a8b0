import TypeBridge.Proofs.Discovery.Drain
import Mathlib.Data.List.Nodup
/-!
# The closure discovery computes

Which declarations a run generates is fixed by the registry alone: `Generated` is the least set
holding every eligible declaration a root looks up to and closed under the eligible successors of
its structs, and `Reaches` is what the run can touch. The queue a struct's assembly fills holds
exactly the paths of its successors (`successor_of_mem_queue`, `mem_queue_of_successor`).
-/

namespace TypeBridge

namespace Registry

def WellFormed (r : Registry) : Prop := (r.decls.map Decl.name).Nodup

instance (r : Registry) : Decidable r.WellFormed :=
  inferInstanceAs (Decidable (r.decls.map Decl.name).Nodup)

variable {r : Registry}

theorem find?_name (hr : r.WellFormed) {d : Decl} (hd : d ∈ r.decls) : r.find? d.name = some d := by
  unfold find?
  cases hf : r.decls.find? (·.name == d.name) with
  | none =>
    have hne := List.find?_eq_none.mp hf d hd
    simp at hne
  | some d' =>
    have hname : d'.name = d.name := by simpa using List.find?_some hf
    rw [List.inj_on_of_nodup_map hr (List.mem_of_find?_eq_some hf) hd hname]

theorem lookup?_name (hr : r.WellFormed) {d : Decl} (hd : d ∈ r.decls) : r.lookup? d.name = some d := by
  simp [lookup?, find?_name hr hd]

theorem WellFormed.register (hr : r.WellFormed) (d : Decl) : (r.register d).WellFormed := by
  unfold WellFormed at hr ⊢
  unfold Registry.register
  split
  · have hnames : (r.decls.map fun e => if e.name == d.name then d else e).map Decl.name =
        r.decls.map Decl.name := by
      rw [List.map_map]
      apply List.map_congr_left
      intro e _
      by_cases h : e.name = d.name <;> simp [h]
    show ((r.decls.map fun e => if e.name == d.name then d else e).map Decl.name).Nodup
    rw [hnames]
    exact hr
  · rename_i hc
    have hnew : ∀ e ∈ r.decls, e.name ≠ d.name := by simpa [contains] using hc
    simpa [List.nodup_append] using And.intro hr hnew

theorem WellFormed.unregister (hr : r.WellFormed) (path : String) : (r.unregister path).WellFormed :=
  hr.sublist ((List.filter_sublist).map _)

theorem WellFormed.markRoot (hr : r.WellFormed) (path : String) : (r.markRoot path).WellFormed := by
  unfold Registry.markRoot
  split
  · exact hr
  · exact hr

theorem wellFormed_withBuiltins : withBuiltins.WellFormed := by
  unfold withBuiltins
  suffices h : ∀ (ds : List Decl) (r : Registry), r.WellFormed → (ds.foldl register r).WellFormed from
    h builtins {} List.nodup_nil
  intro ds
  induction ds with
  | nil => exact fun _ hr => hr
  | cons d ds ih => exact fun r hr => ih _ (hr.register d)

end Registry

/-! ### Eligibility -/

/-- A declaration that assembly accepts. -/
structure Eligible (r : Registry) (d : Decl) : Prop where
  not_pair : d.name ≠ Known.pair
  shape : d.kind = .struct ∨ d.kind = .enum
  top_level : d.origin = .topLevel
  supertypes : ∀ st ∈ d.supertypes, st.kind = .data → st.ty.canonical? ≠ some Known.any →
    ∃ c sup, st.ty.canonical? = some c ∧ r.lookup? c = some sup

namespace Target

variable {r : Registry} {d : Decl}

theorem ineligibility?_eq_none_iff :
    ineligibility? r d = none ↔ (d.kind = .struct ∨ d.kind = .enum) ∧ d.origin = .topLevel ∧
      ∀ st ∈ d.supertypes, st.kind = .data → st.ty.canonical? ≠ some Known.any →
        ∃ c sup, st.ty.canonical? = some c ∧ r.lookup? c = some sup := by
  unfold ineligibility?
  by_cases hk : d.kind = .struct ∨ d.kind = .enum
  · have hc : (!(d.kind == .struct || d.kind == .enum)) = false := by
      rcases hk with hk | hk <;> simp [hk]
    rw [hc]
    cases ho : d.origin with
    | inInitializer => simp
    | inFunction => simp
    | topLevel =>
      simp [hk, dataSupertypes, List.find?_eq_none, Option.ne_none_iff_exists']
  · have hc : (!(d.kind == .struct || d.kind == .enum)) = true := by
      simpa [not_or] using hk
    simp [hc, hk]

end Target

theorem eligible_iff {r : Registry} {d : Decl} :
    Eligible r d ↔ d.name ≠ Known.pair ∧ Target.ineligibility? r d = none := by
  rw [Target.ineligibility?_eq_none_iff]
  constructor
  · intro h
    exact ⟨h.not_pair, h.shape, h.top_level, h.supertypes⟩
  · rintro ⟨hp, hk, ho, hs⟩
    exact ⟨hp, hk, ho, hs⟩

theorem Eligible.ineligibility?_eq_none {r : Registry} {d : Decl} (he : Eligible r d) :
    Target.ineligibility? r d = none :=
  (eligible_iff.mp he).2

theorem assembled?_isSome_iff {r : Registry} {d : Decl} (m : Mode) :
    (Target.assembled? r d m).isSome ↔ Eligible r d := by
  rw [eligible_iff, ← Option.not_isSome_iff_eq_none, Option.isSome_iff_ne_none, Ne,
    Target.assembled?_eq_none_iff, not_or]

/-! ### Successors and the closure -/

namespace Target

def wrappers (r : Registry) (d : Decl) : List Wrapped :=
  d.typeParams.map (fun p => Wrapped.typeVariable p.asTypeRef) ++ d.members.map (propertyType d) ++
    (structSupertypes r d).flatMap fun p => argWrappers p.2.typeParams p.1.args

end Target

/-- The declarations a struct makes known: one found through a node of one of its wrappers
that is no scalar, is instantiable and is no collection, or a data supertype that is a struct
other than itself. -/
inductive Successor (r : Registry) (D : Decl) : Decl → Prop
  | uses {w n : Wrapped} {d : Decl} : w ∈ Target.wrappers r D → n ∈ (w.classify r).nodes →
      n.isPrimitive = false → n.isInstantiable = true → n.collection = .other →
      n.canonical?.bind r.lookup? = some d → Successor r D d
  | supertype {st : Supertype} {c : String} {d : Decl} : st ∈ D.supertypes → st.kind = .data →
      st.ty.canonical? = some c → c ≠ Known.any → r.lookup? c = some d → d.kind = .struct →
      d.name ≠ D.name → Successor r D d

/-- The declarations discovery can touch from the roots: those a root looks up to, and the
successors of reached eligible structs. -/
inductive Reaches (r : Registry) (roots : List String) : Decl → Prop
  | root {root : String} {d : Decl} : root ∈ roots → r.lookup? root = some d → Reaches r roots d
  | step {D d : Decl} : Reaches r roots D → Eligible r D → D.kind = .struct → Successor r D d →
      Reaches r roots d

/-- The least set that holds every eligible declaration a root looks up to and is closed under
the eligible successors of its structs. -/
inductive Generated (r : Registry) (roots : List String) : Decl → Prop
  | root {root : String} {d : Decl} : root ∈ roots → r.lookup? root = some d → Eligible r d →
      Generated r roots d
  | step {D d : Decl} : Generated r roots D → D.kind = .struct → Successor r D d → Eligible r d →
      Generated r roots d

def DistinctNames (r : Registry) (roots : List String) : Prop :=
  ∀ d₁ d₂, Reaches r roots d₁ → Reaches r roots d₂ → d₁.simple = d₂.simple → d₁ = d₂

section Closure

variable {r : Registry} {roots : List String}

theorem Generated.eligible {d : Decl} (h : Generated r roots d) : Eligible r d := by
  cases h with
  | root _ _ he => exact he
  | step _ _ _ he => exact he

theorem Generated.reaches {d : Decl} (h : Generated r roots d) : Reaches r roots d := by
  induction h with
  | root hr hl _ => exact .root hr hl
  | step hD hk hs _ ih => exact .step ih hD.eligible hk hs

theorem Reaches.generated {d : Decl} (h : Reaches r roots d) (he : Eligible r d) :
    Generated r roots d := by
  induction h with
  | root hr hl => exact .root hr hl he
  | step _ hD hk hs ih => exact .step (ih hD) hk hs he

theorem generated_iff {d : Decl} : Generated r roots d ↔ Reaches r roots d ∧ Eligible r d :=
  ⟨fun h => ⟨h.reaches, h.eligible⟩, fun h => h.1.generated h.2⟩

theorem Successor.mem {D d : Decl} (h : Successor r D d) : d ∈ r.decls := by
  cases h with
  | uses _ _ _ _ _ hl =>
    obtain ⟨c, -, hc⟩ := Option.bind_eq_some_iff.mp hl
    exact Registry.lookup?_mem hc
  | supertype _ _ _ _ hl _ _ => exact Registry.lookup?_mem hl

theorem Reaches.mem {d : Decl} (h : Reaches r roots d) : d ∈ r.decls := by
  cases h with
  | root _ hl => exact Registry.lookup?_mem hl
  | step _ _ _ hs => exact hs.mem

theorem distinctNames_of_nodup (h : (r.decls.map Decl.simple).Nodup) : DistinctNames r roots :=
  fun _ _ h₁ h₂ heq => List.inj_on_of_nodup_map h h₁.mem h₂.mem heq

end Closure

/-! ### The queue of an assembly -/

section Queue

variable {r : Registry}

theorem Wrapped.discoverable_iff {n : Wrapped} :
    n.discoverable = true ↔ n.isPrimitive = false ∧ n.isInstantiable = true ∧ n.collection = .other := by
  simp [Wrapped.discoverable, and_assoc]

theorem Wrapped.mem_queued {w : Wrapped} {p : String} :
    p ∈ w.queued r ↔ ∃ n ∈ (w.classify r).nodes, n.discoverable = true ∧
      ∃ d, n.canonical?.bind r.lookup? = some d ∧ d.name = p := by
  simp only [Wrapped.queued, Wrapped.discoveries, List.mem_filterMap]
  constructor
  · rintro ⟨n, hn, h⟩
    by_cases hd : n.discoverable = true
    · rw [if_pos hd, Option.map_eq_some_iff] at h
      exact ⟨n, hn, hd, h⟩
    · rw [if_neg hd] at h
      cases h
  · rintro ⟨n, hn, hd, h⟩
    exact ⟨n, hn, by rw [if_pos hd, Option.map_eq_some_iff]; exact h⟩

theorem Target.mem_structSupertypes {ty : TypeRef} {D d : Decl} :
    (ty, d) ∈ structSupertypes r D ↔
      ∃ st, (st ∈ D.supertypes ∧ st.kind = .data ∧ st.ty.canonical? ≠ some Known.any) ∧
        (∃ c, st.ty.canonical? = some c ∧ r.lookup? c = some d) ∧
        (d.kind = .struct ∧ d.name ≠ D.name) ∧ st.ty = ty := by
  simp [structSupertypes, dataSupertypes, Option.bind_eq_some_iff, Option.ite_none_right_eq_some]

theorem Target.mem_queue_iff {D : Decl} {p : String} (hk : D.kind ≠ .enum) :
    p ∈ queue r D ↔ (∃ w ∈ wrappers r D, p ∈ w.queued r) ∨
      ∃ ty d, (ty, d) ∈ structSupertypes r D ∧ d.name = p := by
  have hk' : (D.kind == .enum) = false := by simpa using hk
  simp only [queue, hk', wrappers, Bool.false_eq_true, ↓reduceIte, List.mem_append, List.mem_flatMap,
    List.mem_map, List.mem_cons, Prod.exists]
  constructor
  · rintro ((⟨tp, htp, hq⟩ | ⟨m, hm, hq⟩) | ⟨ty, d, hsup, rfl | ⟨w, hw, hq⟩⟩)
    · exact .inl ⟨_, .inl (.inl ⟨tp, htp, rfl⟩), hq⟩
    · exact .inl ⟨_, .inl (.inr ⟨m, hm, rfl⟩), hq⟩
    · exact .inr ⟨ty, d, hsup, rfl⟩
    · exact .inl ⟨w, .inr ⟨ty, d, hsup, hw⟩, hq⟩
  · rintro (⟨w, ((⟨tp, htp, rfl⟩ | ⟨m, hm, rfl⟩) | ⟨ty, d, hsup, hw⟩), hq⟩ | ⟨ty, d, hsup, rfl⟩)
    · exact .inl (.inl ⟨tp, htp, hq⟩)
    · exact .inl (.inr ⟨m, hm, hq⟩)
    · exact .inr ⟨ty, d, hsup, .inr ⟨w, hw, hq⟩⟩
    · exact .inr ⟨ty, d, hsup, .inl rfl⟩

theorem Eligible.struct_of_mem_queue {D : Decl} {p : String} (he : Eligible r D)
    (hp : p ∈ Target.queue r D) : D.kind = .struct := by
  rcases he.shape with hk | hk
  · exact hk
  · simp [Target.queue, hk] at hp

/-- Every path a struct's assembly queues is the path of one of its successors. -/
theorem successor_of_mem_queue {D : Decl} {p : String} (h : p ∈ Target.queue r D) :
    ∃ d, Successor r D d ∧ d.name = p := by
  have hk : D.kind ≠ .enum := by
    intro hk
    simp [Target.queue, hk] at h
  rcases (Target.mem_queue_iff hk).mp h with ⟨w, hw, hq⟩ | ⟨ty, d, hsup, rfl⟩
  · obtain ⟨n, hn, hd, d, hl, rfl⟩ := Wrapped.mem_queued.mp hq
    obtain ⟨hprim, hinst, hcoll⟩ := Wrapped.discoverable_iff.mp hd
    exact ⟨d, .uses hw hn hprim hinst hcoll hl, rfl⟩
  · obtain ⟨st, ⟨hst, hdata, hany⟩, ⟨c, hc, hl⟩, ⟨hstruct, hself⟩, -⟩ :=
      Target.mem_structSupertypes.mp hsup
    refine ⟨d, .supertype hst hdata hc ?_ hl hstruct hself, rfl⟩
    rintro rfl
    exact hany hc

/-- The assembly of a struct queues the path of each of its successors. -/
theorem mem_queue_of_successor {D d : Decl} (hk : D.kind ≠ .enum) (h : Successor r D d) :
    d.name ∈ Target.queue r D := by
  rw [Target.mem_queue_iff hk]
  cases h with
  | uses hw hn hprim hinst hcoll hl =>
    exact .inl ⟨_, hw, Wrapped.mem_queued.mpr
      ⟨_, hn, Wrapped.discoverable_iff.mpr ⟨hprim, hinst, hcoll⟩, d, hl, rfl⟩⟩
  | supertype hst hdata hc hany hl hstruct hself =>
    have hsup : (_, d) ∈ Target.structSupertypes r D := Target.mem_structSupertypes.mpr
      ⟨_, ⟨hst, hdata, by rw [hc]; simpa using hany⟩, ⟨_, hc, hl⟩, ⟨hstruct, hself⟩, rfl⟩
    exact .inr ⟨_, d, hsup, rfl⟩

end Queue

end TypeBridge
