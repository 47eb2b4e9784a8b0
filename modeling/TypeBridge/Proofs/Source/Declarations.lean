import TypeBridge.Proofs.Source.Resolution
/-!
# Where the declarations of a source file go

Reading a source file registers every struct, enum, union and trait reachable through modules,
function bodies, methods and initializers (`foundItems`), under the path `Found.path` and with the
origin `Found.origin`; a path holds the last declaration registered under it
(`Generator.readParsed_declares_found`).
-/

namespace TypeBridge

/-! ### Looking a path up -/

namespace Registry

theorem find?_register (r : Registry) (d : Decl) (p : String) :
    (r.register d).find? p = if d.name = p then some d else r.find? p := by
  unfold register find?
  split
  · rename_i hc
    -- replacing in place keeps which declaration comes first under `p`
    have hq : ((fun e : Decl => e.name == p) ∘ fun e => if e.name == d.name then d else e) =
        fun e => e.name == p := by
      funext e
      by_cases he : e.name = d.name
      · simp [he]
      · simp [he]
    rw [List.find?_map, hq]
    cases hf : r.decls.find? (·.name == p) with
    | none =>
      obtain ⟨e, he, hname⟩ := List.any_eq_true.mp hc
      have hne := List.find?_eq_none.mp hf e he
      by_cases hp : d.name = p
      · simp_all
      · simp [hp]
    | some e =>
      have hname : e.name = p := by simpa using List.find?_some hf
      by_cases hp : d.name = p
      · simp [hp, hname]
      · simp [hp, hname, Ne.symm hp]
  · rename_i hc
    rw [List.find?_append]
    by_cases hp : d.name = p
    · have hnone : r.decls.find? (·.name == p) = none :=
        List.find?_eq_none.mpr fun e he hname => hc (List.any_eq_true.mpr ⟨e, he, by simpa [hp] using hname⟩)
      simp [hp, hnone]
    · simp [hp]

end Registry

/-! ### What attaching interfaces leaves of a declaration -/

def Decl.withoutSupertypes (d : Decl) : Decl := { d with supertypes := [] }

theorem Decl.eq_of_withoutSupertypes {d d' : Decl} (h : d'.withoutSupertypes = d.withoutSupertypes) :
    d' = { d with supertypes := d'.supertypes } := by
  cases d
  cases d'
  simp only [withoutSupertypes, Decl.mk.injEq, and_true] at h
  obtain ⟨rfl, rfl, rfl, rfl, rfl, rfl⟩ := h
  rfl

namespace Generator

variable {g : Generator}

theorem attachOne_withoutSupertypes (hr : g.registry.WellFormed) (e : String × Supertype) :
    (attachOne g e).registry.decls.map Decl.withoutSupertypes =
      g.registry.decls.map Decl.withoutSupertypes := by
  cases h : g.registry.lookup? e.1 with
  | none => rw [attachOne_of_lookup_none h]
  | some d =>
    rw [attachOne_of_lookup_some h]
    split
    · rfl
    · have hd := Registry.lookup?_mem h
      have hc : g.registry.contains d.name = true := List.any_eq_true.mpr ⟨d, hd, by simp⟩
      simp only [registerDecl, Registry.register, hc, if_true, List.map_map]
      refine List.map_congr_left fun x hx => ?_
      by_cases hn : x.name = d.name
      · -- one declaration per path: the one replaced is `d` itself
        obtain rfl : x = d := List.inj_on_of_nodup_map hr hx hd hn
        simp [Decl.withoutSupertypes]
      · simp [hn]

theorem attachDeferred_withoutSupertypes (hr : g.registry.WellFormed) :
    g.attachDeferred.registry.decls.map Decl.withoutSupertypes =
      g.registry.decls.map Decl.withoutSupertypes := by
  rw [attachDeferred_eq]
  suffices h : ∀ (L : List (String × Supertype)) (h : Generator), h.registry.WellFormed →
      (L.foldl attachOne h).registry.decls.map Decl.withoutSupertypes =
        h.registry.decls.map Decl.withoutSupertypes from
    h g.deferred _ hr
  intro L
  induction L with
  | nil => intro h _; rfl
  | cons e L ih =>
    intro h hr
    rw [List.foldl_cons, ih _ ((attachOne_grows hr).wellFormed hr), attachOne_withoutSupertypes hr]

/-- Attaching gives the declaration under a path more supertypes after its own, and changes
nothing else of it. -/
theorem attachDeferred_find? (hr : g.registry.WellFormed) {p : String} {d : Decl}
    (hd : g.registry.find? p = some d) :
    ∃ more, g.attachDeferred.registry.find? p = some { d with supertypes := d.supertypes ++ more } := by
  have hrel : Option.Rel Decl.Grows (g.registry.find? p) (g.attachDeferred.registry.find? p) :=
    forall₂_find? (fun _ _ hg => by rw [hg.name]) (attachDeferred_grows hr)
  rw [hd] at hrel
  obtain ⟨d', hd', hgrow⟩ : ∃ d', g.attachDeferred.registry.find? p = some d' ∧ d.Grows d' := by
    generalize g.attachDeferred.registry.find? p = o at hrel
    cases hrel with
    | some h => exact ⟨_, rfl, h⟩
  -- the same declaration as before, apart from its supertypes
  have hbare : d'.withoutSupertypes = d.withoutSupertypes := by
    have hmap := congrArg (List.find? (·.name == p)) (attachDeferred_withoutSupertypes hr)
    simp only [List.find?_map] at hmap
    have hd₀ : g.registry.decls.find? (·.name == p) = some d := hd
    have hd₁ : g.attachDeferred.registry.decls.find? (·.name == p) = some d' := hd'
    rw [show ((fun e : Decl => e.name == p) ∘ Decl.withoutSupertypes) = (·.name == p) from rfl,
      hd₀, hd₁] at hmap
    exact Option.some.inj hmap
  obtain ⟨more, hmore, -, -⟩ := hgrow.supertypes
  exact ⟨more, by rw [hd', Decl.eq_of_withoutSupertypes hbare, hmore]⟩

end Generator

namespace Source

open Rust

/-! ### The items a source file reaches -/

/-- An item that encloses others: an inline module, a function or method, or the block
initializer of a `const` or `static`. -/
inductive Enclosure where
  | module (i : Ident)
  | function (i : Ident)
  | initializer (i : Ident)

namespace Enclosure

def segment : Enclosure → String
  | .module i => i.text
  | .function i => i.name
  | .initializer i => i.name

def origin? : Enclosure → Option DeclOrigin
  | .module _ => none
  | .function _ => some .inFunction
  | .initializer _ => some .inInitializer

def enter (s : Scope) : Enclosure → Scope
  | .module i => { path := s.path ++ "::" ++ i.text, origin := s.origin }
  | .function i => s.nested i .inFunction
  | .initializer i => s.nested i .inInitializer

theorem enter_path (s : Scope) (e : Enclosure) : (e.enter s).path = s.path ++ "::" ++ e.segment := by
  cases e <;> rfl

end Enclosure

/-- A struct, enum, union or trait item of a source file: its name, and the items that enclose
it, outermost first. -/
structure Found where
  enclosing : List Enclosure
  ident : Ident

namespace Found

def within (e : Enclosure) (f : Found) : Found := { f with enclosing := e :: f.enclosing }

/-- The path of the item in the module `m`. -/
def path (m : String) (f : Found) : String :=
  nestPath m (f.enclosing.map Enclosure.segment ++ [f.ident.name])

/-- The origin of the item: the one its outermost enclosing item that gives one gives, top level
when none does. -/
def origin (f : Found) : DeclOrigin := (f.enclosing.findSome? Enclosure.origin?).getD .topLevel

def scopeIn (s : Scope) (f : Found) : Scope := f.enclosing.foldl Enclosure.enter s

def placeIn (s : Scope) (f : Found) : String × DeclOrigin :=
  ((f.scopeIn s).nameOf f.ident, (f.scopeIn s).origin)

theorem origin_eq_topLevel_iff (f : Found) :
    f.origin = .topLevel ↔ ∀ e ∈ f.enclosing, e.origin? = none := by
  rw [← List.findSome?_eq_none_iff, origin]
  cases h : f.enclosing.findSome? Enclosure.origin? with
  | none => simp
  | some o =>
    -- an enclosing item that gives an origin gives a local or a nested one
    obtain ⟨e, -, he⟩ := List.exists_of_findSome?_eq_some h
    cases e <;> cases he <;> simp

end Found

mutual

/-- The struct, enum, union and trait items reachable from `items`, in the order they are
read. -/
def foundItems : List Item → List Found
  | [] => []
  | item :: rest => foundItem item ++ foundItems rest

def foundItem : Item → List Found
  | .struct _ i _ _ => [⟨[], i⟩]
  | .enum _ i _ _ => [⟨[], i⟩]
  | .union _ i => [⟨[], i⟩]
  | .trait i _ _ bodies => ⟨[], i⟩ :: foundBodies bodies
  | .impl _ _ _ bodies => foundBodies bodies
  | .module i (some content) => (foundItems content).map (Found.within (.module i))
  | .fn i body => (foundItems body).map (Found.within (.function i))
  | .const i (some body) => (foundItems body).map (Found.within (.initializer i))
  | .static i (some body) => (foundItems body).map (Found.within (.initializer i))
  | _ => []

def foundBodies : List (Ident × List Item) → List Found
  | [] => []
  | (i, body) :: rest => (foundItems body).map (Found.within (.function i)) ++ foundBodies rest

end

/-! ### The scope an item is read in -/

theorem foldl_enter_path (encl : List Enclosure) (s : Scope) :
    (encl.foldl Enclosure.enter s).path = nestPath s.path (encl.map Enclosure.segment) := by
  induction encl generalizing s with
  | nil => rfl
  | cons e encl ih => rw [List.foldl_cons, ih, Enclosure.enter_path, List.map_cons, nestPath_cons]

theorem foldl_enter_origin (encl : List Enclosure) (s : Scope) :
    (encl.foldl Enclosure.enter s).origin =
      if s.origin = .topLevel then (encl.findSome? Enclosure.origin?).getD .topLevel else s.origin := by
  induction encl generalizing s with
  | nil => split <;> simp_all
  | cons e encl ih =>
    rw [List.foldl_cons, ih, List.findSome?_cons]
    cases e <;> cases ho : s.origin <;> simp +decide [Enclosure.enter, Enclosure.origin?, Scope.nested, ho]

theorem Found.nameOf_scopeIn (m : String) (f : Found) :
    (f.scopeIn ⟨m, .topLevel⟩).nameOf f.ident = f.path m := by
  rw [Scope.nameOf, scopeIn, foldl_enter_path, path, nestPath_append]
  rfl

theorem Found.origin_scopeIn (m : String) (f : Found) : (f.scopeIn ⟨m, .topLevel⟩).origin = f.origin := by
  rw [scopeIn, foldl_enter_origin, if_pos rfl]
  rfl

/-! ### The declarations the walk registers -/

theorem enclosed_declared {names : Names} {scope : Scope} {e : Enclosure} {body : List Item}
    (hbody : ((itemsEffects names (e.enter scope) body).filterMap Effect.declared?).map
      (fun d => (d.name, d.origin)) = (foundItems body).map (Found.placeIn (e.enter scope))) :
    ((if body.isEmpty then [] else itemsEffects names (e.enter scope) body).filterMap
      Effect.declared?).map (fun d => (d.name, d.origin)) =
      ((foundItems body).map (Found.within e)).map (Found.placeIn scope) := by
  split
  · rename_i h
    obtain rfl := List.isEmpty_iff.mp h
    rfl
  · rw [hbody, List.map_map]
    rfl

-- The walk declares the items found, in order, each where the scope it reads the item in puts
-- it; the proof follows the nesting of items.
mutual

theorem itemsEffects_declared (names : Names) (scope : Scope) : ∀ items : List Item,
    ((itemsEffects names scope items).filterMap Effect.declared?).map (fun d => (d.name, d.origin)) =
      (foundItems items).map (Found.placeIn scope)
  | [] => rfl
  | item :: rest => by
    rw [itemsEffects, foundItems, List.filterMap_append, List.map_append, List.map_append,
      itemEffects_declared, itemsEffects_declared]

theorem itemEffects_declared (names : Names) (scope : Scope) : ∀ item : Item,
    ((itemEffects names scope item).filterMap Effect.declared?).map (fun d => (d.name, d.origin)) =
      (foundItem item).map (Found.placeIn scope)
  | .struct .. => rfl
  | .enum .. => rfl
  | .union .. => rfl
  | .trait i gen supertraits bodies => by
    rw [itemEffects, foundItem, List.filterMap_cons_some (f := Effect.declared?) rfl, List.map_cons, List.map_cons,
      bodiesEffects_declared]
    rfl
  | .impl gen traitPath selfTy bodies => by
    rw [itemEffects, foundItem, List.filterMap_append, List.map_append, bodiesEffects_declared]
    -- the block itself only queues an interface
    cases implSupertype names gen traitPath selfTy <;> rfl
  | .module i (some content) => by
    rw [itemEffects, foundItem, itemsEffects_declared, List.map_map]
    rfl
  | .module _ none => rfl
  | .fn i body => by
    rw [itemEffects, foundItem]
    exact @enclosed_declared _ scope (.function i) body (itemsEffects_declared _ _ body)
  | .const i (some body) => by
    rw [itemEffects, foundItem]
    exact @enclosed_declared _ scope (.initializer i) body (itemsEffects_declared _ _ body)
  | .const _ none => rfl
  | .static i (some body) => by
    rw [itemEffects, foundItem]
    exact @enclosed_declared _ scope (.initializer i) body (itemsEffects_declared _ _ body)
  | .static _ none => rfl
  | .use _ => rfl
  | .alias .. => rfl
  | .other => rfl

theorem bodiesEffects_declared (names : Names) (scope : Scope) :
    ∀ bodies : List (Ident × List Item),
    ((bodiesEffects names scope bodies).filterMap Effect.declared?).map (fun d => (d.name, d.origin)) =
      (foundBodies bodies).map (Found.placeIn scope)
  | [] => rfl
  | (i, body) :: rest => by
    rw [bodiesEffects, foundBodies, List.filterMap_append, List.map_append, List.map_append,
      bodiesEffects_declared]
    exact congrArg (· ++ _) (@enclosed_declared _ scope (.function i) body (itemsEffects_declared _ _ body))

end

theorem declared_places (m : String) (items : List Item) :
    (declared m items).map (fun d => (d.name, d.origin)) = (foundItems items).map fun f => (f.path m, f.origin) := by
  rw [declared, fileEffects, itemsEffects_declared]
  refine List.map_congr_left fun f _ => ?_
  rw [Found.placeIn, Found.nameOf_scopeIn, Found.origin_scopeIn]

/-- `mod r#type { fn f() { const C: () = { struct r#X; }; } }`: the module keeps its `r#`, the
struct loses it, and the function, outermost, makes the struct local. -/
example :
    (declared "crate" [.module ⟨"type", true⟩ (some [.fn ⟨"f", false⟩
      [.const ⟨"C", false⟩ (some [.struct [] ⟨"X", true⟩ {} .unit])]])]).map (fun d => (d.name, d.origin)) =
      [("crate::r#type::f::C::X", .inFunction)] := by
  decide +kernel

/-- After effects are applied, a path holds the last declaration they register under it, or
what it held before when they register none. -/
theorem foldl_apply_find? (effs : List Effect) (g : Generator) (p : String) :
    (effs.foldl Effect.apply g).registry.find? p =
      ((effs.filterMap Effect.declared?).reverse.find? (·.name == p)).or (g.registry.find? p) := by
  induction effs generalizing g with
  | nil => rfl
  | cons x effs ih =>
    rw [List.foldl_cons, ih]
    cases x with
    | declare d root =>
      have hfind : ((Effect.declare d root).apply g).registry.find? p =
          if d.name = p then some d else g.registry.find? p := by
        rw [← Registry.find?_register]
        unfold Registry.find?
        rw [Effect.apply, Generator.declare_decls]
      rw [hfind, List.filterMap_cons_some (f := Effect.declared?) rfl, List.reverse_cons,
        List.find?_append, Option.or_assoc]
      by_cases hp : d.name = p
      · simp [hp]
      · simp [hp]
    | defer target trait => rfl

theorem find?_reverse_last {pre post : List Decl} {d : Decl} (hpost : ∀ d' ∈ post, d'.name ≠ d.name) :
    (pre ++ d :: post).reverse.find? (·.name == d.name) = some d := by
  have hnone : post.reverse.find? (·.name == d.name) = none :=
    List.find?_eq_none.mpr fun d' hd' => by simpa using hpost d' (List.mem_reverse.mp hd')
  rw [List.reverse_append, List.reverse_cons, List.append_assoc, List.find?_append, hnone,
    Option.none_or, List.find?_append]
  simp

end Source

namespace Generator

open Source Rust

/-- Reading a parsed source file into the module `m` declares each struct, enum, union and
trait item that inline modules, function bodies, methods of traits and `impl` blocks, and block
initializers lead to, one declaration per item and in reading order, under the item's path and
with its origin. Each path then holds the last declaration made under it, with at most some
interfaces added after its supertypes. -/
theorem readParsed_declares_found {g : Generator} (hg : g.registry.WellFormed) (m : String)
    (items : List Item) :
    (declared m items).map (fun d => (d.name, d.origin)) = (foundItems items).map (fun f => (f.path m, f.origin)) ∧
      ∀ pre d post, declared m items = pre ++ d :: post → (∀ d' ∈ post, d'.name ≠ d.name) →
        ∃ more, (g.readParsed m items).registry.find? d.name =
          some { d with supertypes := d.supertypes ++ more } := by
  refine ⟨declared_places m items, fun pre d post hsplit hpost => ?_⟩
  have hread : ((fileEffects m items).foldl Effect.apply g).registry.find? d.name = some d := by
    rw [foldl_apply_find?, show (fileEffects m items).filterMap Effect.declared? = declared m items from rfl,
      hsplit, find?_reverse_last hpost]
    rfl
  rw [readParsed_eq]
  exact attachDeferred_find? (foldl_apply_wellFormed _ hg) hread

def moduleThenLocal : List Item :=
  [.module ⟨"f", false⟩ (some [.struct [] ⟨"X", false⟩ {} .unit]),
   .fn ⟨"f", false⟩ [.struct [] ⟨"X", false⟩ {} .unit]]

theorem moduleThenLocal_local_wins :
    ∃ d, (({} : Generator).readParsed "crate" moduleThenLocal).registry.find? "crate::f::X" = some d ∧
      d.origin = .inFunction := by
  obtain ⟨-, hlast⟩ :=
    @readParsed_declares_found {} Registry.wellFormed_withBuiltins "crate" moduleThenLocal
  obtain ⟨more, hfind⟩ := hlast [(declared "crate" moduleThenLocal).getD 0 default]
    ((declared "crate" moduleThenLocal).getD 1 default) [] rfl (by simp)
  have hname : ((declared "crate" moduleThenLocal).getD 1 default).name = "crate::f::X" := by
    decide +kernel
  have horigin : ((declared "crate" moduleThenLocal).getD 1 default).origin = .inFunction := by
    decide +kernel
  rw [hname] at hfind
  exact ⟨_, hfind, horigin⟩

end Generator

end TypeBridge
