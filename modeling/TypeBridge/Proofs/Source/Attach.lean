import TypeBridge.Proofs.Render.FieldLine
import TypeBridge.Source.Extract
/-!
# Attaching waiting interfaces

`attachDeferred` hands every waiting interface whose type is declared to that declaration, once.
Attaching only grows declarations (`Decl.Grows`), so the interfaces left waiting are those whose
type looks up to nothing (`attachDeferred_deferred`), and an attached one stays
(`attachDeferred_holds`).
-/

namespace TypeBridge

/-! ### Comparing supertypes -/

theorem Supertype.beq_iff (a b : Supertype) : (a == b) = true ↔ a = b := by
  obtain ⟨t, k⟩ := a
  obtain ⟨t', k'⟩ := b
  show (t == t' && k == k') = true ↔ _
  simp

instance : LawfulBEq Supertype where
  eq_of_beq h := (Supertype.beq_iff _ _).mp h
  rfl := (Supertype.beq_iff _ _).mpr rfl

instance : DecidableEq Supertype := fun a b => decidable_of_iff (a == b) (Supertype.beq_iff a b)

/-! ### Growing declarations -/

namespace Decl

def HoldsOnce (d : Decl) : Prop := ∀ s : Supertype, s.kind = .interface → d.supertypes.count s ≤ 1

theorem holdsOnce_iff {d : Decl} :
    d.HoldsOnce ↔ (d.supertypes.filter (·.kind == .interface)).Nodup := by
  rw [List.nodup_iff_count_le_one]
  constructor
  · intro h s
    by_cases hs : s.kind = .interface
    · rw [List.count_filter (by simpa using hs)]
      exact h s hs
    · rw [List.count_eq_zero.mpr (by simp [hs])]
      omega
  · intro h s hs
    rw [← List.count_filter (p := (·.kind == .interface)) (by simpa using hs)]
    exact h s

instance (d : Decl) : Decidable d.HoldsOnce := decidable_of_iff _ holdsOnce_iff.symm

/-- `d'` is `d` holding more supertypes: the same path and kind, the supertypes of `d` in place,
then others that `d` does not hold, each once. -/
structure Grows (d d' : Decl) : Prop where
  name : d'.name = d.name
  kind : d'.kind = d.kind
  supertypes : ∃ more, d'.supertypes = d.supertypes ++ more ∧ more.Nodup ∧
    ∀ s ∈ more, s ∉ d.supertypes

namespace Grows

variable {d d' d'' : Decl} {s : Supertype}

theorem refl (d : Decl) : Grows d d := ⟨rfl, rfl, [], by simp, List.nodup_nil, by simp⟩

theorem trans (h : Grows d d') (h' : Grows d' d'') : Grows d d'' := by
  obtain ⟨m, hm, hnd, hfresh⟩ := h.supertypes
  obtain ⟨m', hm', hnd', hfresh'⟩ := h'.supertypes
  refine ⟨h'.name.trans h.name, h'.kind.trans h.kind, m ++ m', by rw [hm', hm, List.append_assoc], ?_, ?_⟩
  · rw [List.nodup_append]
    refine ⟨hnd, hnd', fun a ha b hb hab => ?_⟩
    subst hab
    exact hfresh' a hb (hm ▸ List.mem_append_right _ ha)
  · intro a ha
    rcases List.mem_append.mp ha with ha | ha
    · exact hfresh a ha
    · exact fun hd => hfresh' a ha (hm ▸ List.mem_append_left _ hd)

theorem mem (h : Grows d d') (hs : s ∈ d.supertypes) : s ∈ d'.supertypes := by
  obtain ⟨m, hm, -, -⟩ := h.supertypes
  exact hm ▸ List.mem_append_left _ hs

theorem count_of_mem (h : Grows d d') (hs : s ∈ d.supertypes) :
    d'.supertypes.count s = d.supertypes.count s := by
  obtain ⟨m, hm, -, hfresh⟩ := h.supertypes
  have hnot : s ∉ m := fun hm' => hfresh s hm' hs
  rw [hm, List.count_append, List.count_eq_zero.mpr hnot, Nat.add_zero]

theorem count_le_one (h : Grows d d') (hs : s ∉ d.supertypes) : d'.supertypes.count s ≤ 1 := by
  obtain ⟨m, hm, hnd, -⟩ := h.supertypes
  rw [hm, List.count_append, List.count_eq_zero.mpr hs, Nat.zero_add]
  exact List.nodup_iff_count_le_one.mp hnd s

theorem holdsOnce (h : Grows d d') (hd : d.HoldsOnce) : d'.HoldsOnce := by
  intro s hs
  by_cases hmem : s ∈ d.supertypes
  · rw [h.count_of_mem hmem]
    exact hd s hs
  · exact h.count_le_one hmem

theorem append (d : Decl) (hs : s ∉ d.supertypes) :
    Grows d { d with supertypes := d.supertypes ++ [s] } :=
  ⟨rfl, rfl, [s], rfl, List.nodup_singleton s, by simpa using hs⟩

end Grows

end Decl

/-! ### Growing registries -/

theorem forall₂_find? {α β : Type} {R : α → β → Prop} {p : α → Bool} {q : β → Bool}
    (hpq : ∀ a b, R a b → p a = q b) {l : List α} {l' : List β} (h : List.Forall₂ R l l') :
    Option.Rel R (l.find? p) (l'.find? q) := by
  induction h with
  | nil => exact .none
  | @cons a b l l' hab _ ih =>
    rw [List.find?_cons, List.find?_cons, hpq a b hab]
    cases q b
    · exact ih
    · exact .some hab

theorem forall₂_exists_right {α β : Type} {R : α → β → Prop} :
    ∀ {l : List α} {l' : List β}, List.Forall₂ R l l' → ∀ a ∈ l, ∃ b ∈ l', R a b
  | [], [], .nil, _, ha => by simp at ha
  | _ :: _, b :: _, .cons hab rest, a, ha => by
    rcases List.mem_cons.mp ha with rfl | ha
    · exact ⟨b, List.mem_cons_self, hab⟩
    · obtain ⟨b', hb', h⟩ := forall₂_exists_right rest a ha
      exact ⟨b', List.mem_cons_of_mem _ hb', h⟩

theorem forall₂_exists_left {α β : Type} {R : α → β → Prop} :
    ∀ {l : List α} {l' : List β}, List.Forall₂ R l l' → ∀ b ∈ l', ∃ a ∈ l, R a b
  | [], [], .nil, _, hb => by simp at hb
  | a :: _, _ :: _, .cons hab rest, b, hb => by
    rcases List.mem_cons.mp hb with rfl | hb
    · exact ⟨a, List.mem_cons_self, hab⟩
    · obtain ⟨a', ha', h⟩ := forall₂_exists_left rest b hb
      exact ⟨a', List.mem_cons_of_mem _ ha', h⟩

namespace Registry

variable {r r' r'' : Registry} {d d' : Decl}

theorem mem_register (h : d ∈ (r.register d').decls) : d ∈ r.decls ∨ d = d' := by
  unfold register at h
  split at h
  · obtain ⟨e, he, rfl⟩ := List.mem_map.mp h
    by_cases hn : e.name = d'.name
    · exact .inr (by simp [hn])
    · exact .inl (by simpa [hn] using he)
  · simpa using h

/-- Every declaration of `r` grows into the one at its place in `r'`. -/
def Grows (r r' : Registry) : Prop := List.Forall₂ Decl.Grows r.decls r'.decls

namespace Grows

theorem refl (r : Registry) : r.Grows r := List.forall₂_same.mpr fun d _ => Decl.Grows.refl d

theorem trans (h : r.Grows r') (h' : r'.Grows r'') : r.Grows r'' := by
  unfold Grows at h h' ⊢
  generalize r.decls = l at h ⊢
  generalize r'.decls = l' at h h'
  generalize r''.decls = l'' at h' ⊢
  induction h generalizing l'' with
  | nil => exact h'
  | cons hab _ ih =>
    cases h' with
    | cons hbc htail => exact .cons (hab.trans hbc) (ih _ htail)

theorem names (h : r.Grows r') : r'.decls.map Decl.name = r.decls.map Decl.name := by
  unfold Grows at h
  generalize r.decls = l at h ⊢
  generalize r'.decls = l' at h ⊢
  induction h with
  | nil => rfl
  | cons hab _ ih => rw [List.map_cons, List.map_cons, hab.name, ih]

theorem wellFormed (h : r.Grows r') (hr : r.WellFormed) : r'.WellFormed := by
  unfold WellFormed
  rw [h.names]
  exact hr

theorem exists_of_mem (h : r.Grows r') (hd : d ∈ r.decls) : ∃ d' ∈ r'.decls, d.Grows d' :=
  forall₂_exists_right h d hd

theorem exists_of_mem_right (h : r.Grows r') (hd' : d' ∈ r'.decls) : ∃ d ∈ r.decls, d.Grows d' :=
  forall₂_exists_left h d' hd'

theorem lookup? (h : r.Grows r') (path : String) :
    Option.Rel Decl.Grows (r.lookup? path) (r'.lookup? path) := by
  have hfind : Option.Rel Decl.Grows (r.find? path) (r'.find? path) :=
    forall₂_find? (fun _ _ hg => by rw [hg.name]) h
  unfold Registry.lookup?
  generalize r.find? path = o at hfind ⊢
  generalize r'.find? path = o' at hfind ⊢
  cases hfind with
  | some hab => exact .some hab
  | none =>
    by_cases hc : path.startsWith "crate::" = true
    · -- the unique declaration of the same simple name, traits apart, on both sides
      simp only [hc, if_true]
      have hfilter := List.rel_filter (p := fun d => d.simple == Path.simple path && d.kind != .trait)
        (q := fun d => d.simple == Path.simple path && d.kind != .trait)
        (fun a b hg => by simp [Decl.simple, hg.name, hg.kind]) h
      generalize r.decls.filter _ = l at hfilter ⊢
      generalize r'.decls.filter _ = l' at hfilter ⊢
      rcases hfilter with _ | ⟨hab, _ | ⟨_, _⟩⟩
      · exact .none
      · exact .some hab
      · exact .none
    · simp only [hc]
      exact .none

theorem lookup?_isNone (h : r.Grows r') (path : String) :
    (r'.lookup? path).isNone = (r.lookup? path).isNone := by
  have hrel := h.lookup? path
  generalize r.lookup? path = o at hrel ⊢
  generalize r'.lookup? path = o' at hrel ⊢
  cases hrel <;> rfl

end Grows

theorem grows_register (hr : r.WellFormed) (hd : d ∈ r.decls) (hg : d.Grows d') :
    r.Grows (r.register d') := by
  have hc : r.contains d'.name = true := List.any_eq_true.mpr ⟨d, hd, by simp [hg.name]⟩
  unfold Grows register
  rw [if_pos hc]
  show List.Forall₂ Decl.Grows r.decls (r.decls.map fun e => if e.name == d'.name then d' else e)
  rw [List.forall₂_map_right_iff, List.forall₂_same]
  intro e he
  by_cases hn : e.name = d.name
  · -- one declaration per path: the one replaced is `d` itself
    have : e = d := List.inj_on_of_nodup_map hr he hd hn
    subst this
    simpa [hg.name] using hg
  · simpa [hg.name, hn] using Decl.Grows.refl e

end Registry

/-! ### Attaching waiting interfaces -/

namespace Generator

variable {g : Generator} {e : String × Supertype} {d : Decl}

def attachOne (g : Generator) (entry : String × Supertype) : Generator :=
  let (target, sup) := entry
  match g.registry.lookup? target with
  | some d =>
    if d.supertypes.contains sup then g
    else g.registerDecl { d with supertypes := d.supertypes ++ [sup] }
  | none => { g with deferred := g.deferred ++ [(target, sup)] }

theorem attachDeferred_eq (g : Generator) :
    g.attachDeferred = g.deferred.foldl attachOne { g with deferred := [] } := rfl

theorem attachOne_of_lookup_none (h : g.registry.lookup? e.1 = none) :
    attachOne g e = { g with deferred := g.deferred ++ [e] } := by
  obtain ⟨target, sup⟩ := e
  simp only [attachOne, h]

theorem attachOne_of_lookup_some (h : g.registry.lookup? e.1 = some d) :
    attachOne g e = if e.2 ∈ d.supertypes then g
      else g.registerDecl { d with supertypes := d.supertypes ++ [e.2] } := by
  obtain ⟨target, sup⟩ := e
  simp only [attachOne, h, List.contains_iff_mem]

theorem attachOne_deferred (g : Generator) (e : String × Supertype) :
    (attachOne g e).deferred = g.deferred ++ [e].filter fun e => (g.registry.lookup? e.1).isNone := by
  cases h : g.registry.lookup? e.1 with
  | none => simp [attachOne_of_lookup_none h, h]
  | some d =>
    rw [attachOne_of_lookup_some h]
    split <;> simp [registerDecl, h]

theorem attachOne_grows (hr : g.registry.WellFormed) : g.registry.Grows (attachOne g e).registry := by
  cases h : g.registry.lookup? e.1 with
  | none =>
    rw [attachOne_of_lookup_none h]
    exact Registry.Grows.refl _
  | some d =>
    rw [attachOne_of_lookup_some h]
    split
    · exact Registry.Grows.refl _
    · exact Registry.grows_register hr (Registry.lookup?_mem h) (Decl.Grows.append d ‹_›)

theorem foldl_attachOne_grows (L : List (String × Supertype)) (h : Generator)
    (hr : h.registry.WellFormed) : h.registry.Grows (L.foldl attachOne h).registry := by
  induction L generalizing h with
  | nil => exact Registry.Grows.refl _
  | cons e L ih =>
    have hstep := attachOne_grows (e := e) hr
    exact hstep.trans (ih _ (hstep.wellFormed hr))

theorem foldl_attachOne_deferred (L : List (String × Supertype)) (h : Generator)
    (hr : h.registry.WellFormed) :
    (L.foldl attachOne h).deferred = h.deferred ++ L.filter fun e => (h.registry.lookup? e.1).isNone := by
  induction L generalizing h with
  | nil => simp
  | cons e L ih =>
    have hstep := attachOne_grows (e := e) hr
    rw [List.foldl_cons, ih _ (hstep.wellFormed hr), attachOne_deferred]
    -- lookups fail in the same places before and after the step
    simp only [hstep.lookup?_isNone, List.filter_cons, List.filter_nil]
    cases (h.registry.lookup? e.1).isNone <;> simp

theorem attachDeferred_grows (hr : g.registry.WellFormed) : g.registry.Grows g.attachDeferred.registry :=
  foldl_attachOne_grows g.deferred { g with deferred := [] } hr

/-- The interfaces still waiting are those whose type looks up to nothing, in order. -/
theorem attachDeferred_deferred (hr : g.registry.WellFormed) :
    g.attachDeferred.deferred = g.deferred.filter fun e => (g.registry.lookup? e.1).isNone := by
  rw [attachDeferred_eq, foldl_attachOne_deferred _ { g with deferred := [] } hr, List.nil_append]

end Generator

end TypeBridge
