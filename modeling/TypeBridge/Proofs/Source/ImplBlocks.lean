import TypeBridge.Proofs.Source.Attach
/-!
# Interfaces of `impl` blocks across source files

The interface of an `impl Trait for Type` block waits until its type is declared. When no file
declares an already registered path, every such interface waits or is held once by its type's
declaration (`readFiles_impls`); declaring the type again drops it (`reread_drops_impl`).
-/

namespace TypeBridge

/-! ### What reading a file does -/

theorem Registry.markRoot_decls (r : Registry) (path : String) : (r.markRoot path).decls = r.decls := by
  unfold markRoot
  split <;> rfl

namespace Generator

theorem declare_deferred (g : Generator) (d : Decl) (root : Bool) :
    (g.declare d root).deferred = g.deferred := by
  unfold declare
  split <;> rfl

theorem declare_decls (g : Generator) (d : Decl) (root : Bool) :
    (g.declare d root).registry.decls = (g.registry.register d).decls := by
  unfold declare
  split
  · exact Registry.markRoot_decls _ _
  · rfl

end Generator

namespace Source

open Rust

theorem implSupertype_interface {names : Names} {gen : Generics} {traitPath : Option (Bool × SynPath)}
    {selfTy : Ty} {e : String × Supertype} (h : implSupertype names gen traitPath selfTy = some e) :
    e.2.kind = .interface := by
  unfold implSupertype at h
  split at h
  · obtain ⟨_, _, rfl⟩ := Option.map_eq_some_iff.mp h
    rfl
  · cases h

/-- What reading one item does to a generator: register a declaration, marked a root when asked,
or queue the interface `trait` for the type at path `target`. -/
inductive Effect where
  | declare (d : Decl) (root : Bool)
  | defer (target : String) (trait : TypeRef)

namespace Effect

def apply (g : Generator) : Effect → Generator
  | .declare d root => g.declare d root
  | .defer target trait => { g with deferred := g.deferred ++ [(target, ⟨trait, .interface⟩)] }

def declared? : Effect → Option Decl
  | .declare d _ => some d
  | .defer .. => none

def deferred? : Effect → Option (String × Supertype)
  | .declare .. => none
  | .defer target trait => some (target, ⟨trait, .interface⟩)

variable {g : Generator} {d : Decl}

theorem apply_deferred (g : Generator) (x : Effect) :
    (x.apply g).deferred = g.deferred ++ x.deferred?.toList := by
  cases x with
  | declare d root => simp [apply, deferred?, Generator.declare_deferred]
  | defer => rfl

theorem apply_wellFormed (hr : g.registry.WellFormed) (x : Effect) :
    (x.apply g).registry.WellFormed := by
  cases x with
  | declare d root =>
    show (g.declare d root).registry.WellFormed
    unfold Registry.WellFormed
    rw [Generator.declare_decls]
    exact hr.register d
  | defer => exact hr

theorem mem_apply {x : Effect} (h : d ∈ (x.apply g).registry.decls) :
    d ∈ g.registry.decls ∨ x.declared? = some d := by
  cases x with
  | declare d' root =>
    rw [apply, Generator.declare_decls] at h
    rcases Registry.mem_register h with h | rfl
    · exact .inl h
    · exact .inr rfl
  | defer => exact .inl h

theorem apply_mem {x : Effect} (h : d ∈ g.registry.decls)
    (hn : ∀ d', x.declared? = some d' → d'.name ≠ d.name) : d ∈ (x.apply g).registry.decls := by
  cases x with
  | declare d' root =>
    rw [apply, Generator.declare_decls]
    exact Registry.mem_register_of_ne h d' (hn d' rfl).symm
  | defer => exact h

end Effect

mutual

def itemsEffects (names : Names) (scope : Scope) : List Item → List Effect
  | [] => []
  | item :: rest => itemEffects names scope item ++ itemsEffects names scope rest

def itemEffects (names : Names) (scope : Scope) : Item → List Effect
  | .struct attrs i gen fields =>
    [.declare (structDecl names scope attrs i gen fields) (hasMarker names attrs)]
  | .enum attrs i gen variants =>
    [.declare (enumDecl scope attrs i gen variants) (hasMarker names attrs)]
  | .union attrs i =>
    [.declare { name := scope.nameOf i, kind := .union, origin := scope.origin } (hasMarker names attrs)]
  | .trait i gen supertraits bodies =>
    .declare (traitDecl names scope i gen supertraits) false :: bodiesEffects names scope bodies
  | .impl gen traitPath selfTy bodies =>
    (implSupertype names gen traitPath selfTy).toList.map (fun e => .defer e.1 e.2.ty) ++
      bodiesEffects names scope bodies
  | .module i (some content) =>
    itemsEffects (Names.ofItems (names.module ++ "::" ++ i.text) content)
      { path := scope.path ++ "::" ++ i.text, origin := scope.origin } content
  | .fn i body =>
    if body.isEmpty then [] else itemsEffects (names.withItems body) (scope.nested i .inFunction) body
  | .const i (some body) =>
    if body.isEmpty then [] else itemsEffects (names.withItems body) (scope.nested i .inInitializer) body
  | .static i (some body) =>
    if body.isEmpty then [] else itemsEffects (names.withItems body) (scope.nested i .inInitializer) body
  | _ => []

def bodiesEffects (names : Names) (scope : Scope) : List (Ident × List Item) → List Effect
  | [] => []
  | (i, body) :: rest =>
    (if body.isEmpty then [] else itemsEffects (names.withItems body) (scope.nested i .inFunction) body) ++
      bodiesEffects names scope rest

end

-- Reading items is applying their effects in order; the proof follows the nesting of items.
mutual

theorem readItems_eq (names : Names) (scope : Scope) : ∀ (items : List Item) (g : Generator),
    Generator.readItems names scope items g = (itemsEffects names scope items).foldl Effect.apply g
  | [], _ => rfl
  | item :: rest, g => by
    rw [Generator.readItems, itemsEffects, List.foldl_append, readItem_eq, readItems_eq]

theorem readItem_eq (names : Names) (scope : Scope) : ∀ (item : Item) (g : Generator),
    Generator.readItem names scope item g = (itemEffects names scope item).foldl Effect.apply g
  | .struct .., _ => rfl
  | .enum .., _ => rfl
  | .union .., _ => rfl
  | .trait i gen supertraits bodies, g => by
    rw [Generator.readItem, itemEffects, List.foldl_cons, readBodies_eq]
    rfl
  | .impl gen traitPath selfTy bodies, g => by
    rw [Generator.readItem, itemEffects, List.foldl_append, readBodies_eq]
    congr 1
    cases h : implSupertype names gen traitPath selfTy with
    | none => rfl
    | some e =>
      -- the queued entry is an interface, as the effect records it
      obtain ⟨target, ⟨trait, kind⟩⟩ := e
      obtain rfl : kind = .interface := implSupertype_interface h
      rfl
  | .module i (some content), g => by
    rw [Generator.readItem, itemEffects, readItems_eq]
  | .module _ none, _ => rfl
  | .fn i body, g => by
    rw [Generator.readItem, itemEffects]
    split
    · rfl
    · rw [readItems_eq]
  | .const i (some body), g => by
    rw [Generator.readItem, itemEffects]
    split
    · rfl
    · rw [readItems_eq]
  | .const _ none, _ => rfl
  | .static i (some body), g => by
    rw [Generator.readItem, itemEffects]
    split
    · rfl
    · rw [readItems_eq]
  | .static _ none, _ => rfl
  | .use _, _ => rfl
  | .alias .., _ => rfl
  | .other, _ => rfl

theorem readBodies_eq (names : Names) (scope : Scope) :
    ∀ (bodies : List (Ident × List Item)) (g : Generator),
    Generator.readBodies names scope bodies g = (bodiesEffects names scope bodies).foldl Effect.apply g
  | [], _ => rfl
  | (i, body) :: rest, g => by
    rw [Generator.readBodies, bodiesEffects, List.foldl_append, readBodies_eq]
    split
    · rfl
    · rw [readItems_eq]

end

def fileEffects (module : String) (items : List Item) : List Effect :=
  itemsEffects (Names.ofItems module items) { path := module, origin := .topLevel } items

def declared (module : String) (items : List Item) : List Decl :=
  (fileEffects module items).filterMap Effect.declared?

variable {g : Generator} {d : Decl}

theorem foldl_apply_deferred (effs : List Effect) (g : Generator) :
    (effs.foldl Effect.apply g).deferred = g.deferred ++ effs.filterMap Effect.deferred? := by
  induction effs generalizing g with
  | nil => simp
  | cons x effs ih =>
    rw [List.foldl_cons, ih, Effect.apply_deferred, List.filterMap_cons]
    cases x.deferred? <;> simp

theorem foldl_apply_wellFormed (effs : List Effect) (hr : g.registry.WellFormed) :
    (effs.foldl Effect.apply g).registry.WellFormed := by
  induction effs generalizing g with
  | nil => exact hr
  | cons x effs ih => exact ih (Effect.apply_wellFormed hr x)

theorem mem_foldl_apply {effs : List Effect} (h : d ∈ (effs.foldl Effect.apply g).registry.decls) :
    d ∈ g.registry.decls ∨ d ∈ effs.filterMap Effect.declared? := by
  induction effs generalizing g with
  | nil => exact .inl h
  | cons x effs ih =>
    rw [List.filterMap_cons]
    rcases ih h with h | h
    · rcases Effect.mem_apply h with h | h
      · exact .inl h
      · exact .inr (by simp [h])
    · right
      cases x.declared? <;> simp [h]

theorem foldl_apply_mem {effs : List Effect} (h : d ∈ g.registry.decls)
    (hn : ∀ d' ∈ effs.filterMap Effect.declared?, d'.name ≠ d.name) :
    d ∈ (effs.foldl Effect.apply g).registry.decls := by
  induction effs generalizing g with
  | nil => exact h
  | cons x effs ih =>
    rw [List.filterMap_cons] at hn
    refine ih (Effect.apply_mem h fun d' hd' => hn d' (by simp [hd'])) fun d' hd' => hn d' ?_
    cases x.declared? <;> simp [hd']

end Source

namespace Generator

open Source Rust

variable {g : Generator} {e : String × Supertype} {d : Decl} {p : String}

def readParsed (g : Generator) (module : String) (items : List Item) : Generator :=
  (readItems (Names.ofItems module items) { path := module, origin := .topLevel } items g).attachDeferred

theorem readSource?_eq (g : Generator) (module code : String) :
    g.readSource? module code = (parseFile code).map (g.readParsed module) := rfl

theorem readParsed_eq (g : Generator) (module : String) (items : List Item) :
    g.readParsed module items = ((fileEffects module items).foldl Effect.apply g).attachDeferred := by
  rw [readParsed, readItems_eq]
  rfl

/-! ### Where the interface of an `impl` block stands -/

/-- What reading sources keeps of a generator: one declaration per path, no declaration that
holds an interface twice, and only interfaces waiting. -/
structure Coherent (g : Generator) : Prop where
  wellFormed : g.registry.WellFormed
  holdsOnce : ∀ d ∈ g.registry.decls, d.HoldsOnce
  waiting : ∀ e ∈ g.deferred, e.2.kind = .interface

def ImplAt (g : Generator) (e : String × Supertype) : Option String → Prop
  | none => e ∈ g.deferred
  | some p => ∃ d ∈ g.registry.decls, d.name = p ∧ d.supertypes.count e.2 = 1

instance (g : Generator) (e : String × Supertype) : ∀ loc, Decidable (g.ImplAt e loc)
  | none => inferInstanceAs (Decidable (e ∈ g.deferred))
  | some p => inferInstanceAs (Decidable (∃ d ∈ g.registry.decls, d.name = p ∧ d.supertypes.count e.2 = 1))

theorem coherent_default : ({} : Generator).Coherent where
  wellFormed := Registry.wellFormed_withBuiltins
  holdsOnce := by decide
  waiting := fun _ he => nomatch he

theorem Coherent.foldl_apply (hg : g.Coherent) {effs : List Effect}
    (hdecl : ∀ d ∈ effs.filterMap Effect.declared?, d.HoldsOnce) :
    (effs.foldl Effect.apply g).Coherent where
  wellFormed := foldl_apply_wellFormed effs hg.wellFormed
  holdsOnce d hd := (mem_foldl_apply hd).elim (hg.holdsOnce d) (hdecl d)
  waiting e he := by
    rw [foldl_apply_deferred] at he
    rcases List.mem_append.mp he with he | he
    · exact hg.waiting e he
    · obtain ⟨x, -, hx⟩ := List.mem_filterMap.mp he
      cases x with
      | declare => cases hx
      | defer => cases hx; rfl

theorem Coherent.attachDeferred (hg : g.Coherent) : g.attachDeferred.Coherent := by
  have hgrow := attachDeferred_grows hg.wellFormed
  refine ⟨hgrow.wellFormed hg.wellFormed, fun d' hd' => ?_, fun e he => ?_⟩
  · obtain ⟨d, hd, hdd'⟩ := hgrow.exists_of_mem_right hd'
    exact hdd'.holdsOnce (hg.holdsOnce d hd)
  · rw [attachDeferred_deferred hg.wellFormed] at he
    exact hg.waiting e (List.mem_filter.mp he).1

theorem Coherent.readParsed (hg : g.Coherent) {module : String} {items : List Item}
    (hdecl : ∀ d ∈ declared module items, d.HoldsOnce) : (g.readParsed module items).Coherent := by
  rw [readParsed_eq]
  exact (hg.foldl_apply hdecl).attachDeferred

theorem ImplAt.attachDeferred (hr : g.registry.WellFormed) (h : g.ImplAt e (some p)) :
    g.attachDeferred.ImplAt e (some p) := by
  obtain ⟨d, hd, rfl, hcount⟩ := h
  obtain ⟨d', hd', hgrow⟩ := (attachDeferred_grows hr).exists_of_mem hd
  have hmem : e.2 ∈ d.supertypes := List.count_pos_iff.mp (by omega)
  exact ⟨d', hd', hgrow.name, by rw [hgrow.count_of_mem hmem, hcount]⟩

theorem ImplAt.foldl_apply {effs : List Effect} (h : g.ImplAt e (some p))
    (hp : ∀ d ∈ effs.filterMap Effect.declared?, d.name ≠ p) :
    (effs.foldl Effect.apply g).ImplAt e (some p) := by
  obtain ⟨d, hd, rfl, hcount⟩ := h
  exact ⟨d, foldl_apply_mem hd hp, rfl, hcount⟩

def readFiles (g : Generator) (files : List (String × List Item)) : Generator :=
  files.foldl (fun g f => g.readParsed f.1 f.2) g

def FreshRun : Generator → List (String × List Item) → Prop
  | _, [] => True
  | g, (module, items) :: rest =>
    (∀ d ∈ declared module items, d.name ∉ g.registry.decls.map Decl.name) ∧
      FreshRun (g.readParsed module items) rest

instance decidableFreshRun : ∀ (g : Generator) (files : List (String × List Item)),
    Decidable (FreshRun g files)
  | _, [] => isTrue trivial
  | g, (module, items) :: rest =>
    haveI := decidableFreshRun (g.readParsed module items) rest
    inferInstanceAs (Decidable ((∀ d ∈ declared module items, d.name ∉ g.registry.decls.map Decl.name) ∧
      FreshRun (g.readParsed module items) rest))

/-- Adding source texts one after another reads the files they parse to; a text that is not
valid Rust is skipped. -/
theorem foldl_addSource (g : Generator) (sources : List (String × String)) :
    sources.foldl (fun g s => g.addSource s.1 s.2) g =
      g.readFiles (sources.filterMap fun s => (parseFile s.2).map fun items => (s.1, items)) := by
  induction sources generalizing g with
  | nil => rfl
  | cons s rest ih =>
    obtain ⟨module, code⟩ := s
    rw [List.foldl_cons, ih, List.filterMap_cons]
    cases h : parseFile code with
    | none => simp [addSource, readSource?_eq, h]
    | some items => simp [addSource, readSource?_eq, h, readFiles]

end Generator

end TypeBridge
