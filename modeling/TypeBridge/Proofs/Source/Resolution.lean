import TypeBridge.Proofs.Source.Scopes
import TypeBridge.Proofs.Source.ImplBlocks
/-!
# References to declarations of a source file

A path written in a field's type resolves to the path its declaration is registered under, for
the forms of `Refers` (`field_reference_lookup`). A direct path led by two `super`s is missed
(`superSuper_path_unresolved`), and names that shadow the prelude, a scalar or `Self` resolve
elsewhere (`shadowed_names_resolve_elsewhere`).
-/

namespace TypeBridge.Source

open Rust

/-! ### The forms of a reference -/

def PlainName (s : String) : Prop := ':' ∉ s.toList ∧ s ∉ ["crate", "self", "super", "Self"]

instance (s : String) : Decidable (PlainName s) := inferInstanceAs (Decidable (_ ∧ _))

theorem PlainName.colonFree {s : String} (h : PlainName s) : ':' ∉ s.toList := h.1

/-- A module path of the crate: its first segment is `crate`, and no segment holds a colon. -/
structure CrateModule (m : String) : Prop where
  first : (Path.segments m).head? = some "crate"
  plain : ∀ s ∈ Path.segments m, ':' ∉ s.toList

/-- `ModuleAt items segs c`: in a file whose items are `items`, the inline modules `segs` lead
to a module whose items are `c`. -/
inductive ModuleAt : List Item → List String → List Item → Prop
  | top (items : List Item) : ModuleAt items [] items
  | inner {items sub c : List Item} {segs : List String} (i : Ident) :
      Item.module i (some sub) ∈ items → ModuleAt sub segs c → ModuleAt items (i.text :: segs) c

def DeclaresType (c : List Item) (x : Ident) : Prop :=
  (∃ attrs gen fields, Item.struct attrs x gen fields ∈ c) ∨
    ∃ attrs gen variants, Item.enum attrs x gen variants ∈ c

def NoAlias (c : List Item) (y : String) : Prop :=
  ∀ i gen ty, Item.alias i gen ty ∈ c → i.text ≠ y

/-- `Anchored m c here u target`: the path `u`, written in the module `nestPath m here` whose
items are `c`, starts at the crate root, at the current module, at a module `k` levels up (`k`
times `super`), or at an inline module of the current one, and so stands for `target`. -/
inductive Anchored (m : String) (c : List Item) (here : List String) : List String → String → Prop
  | crateRoot {rest : List String} : (∀ s ∈ rest, PlainName s) →
      Anchored m c here ("crate" :: rest) (nestPath "crate" rest)
  | current {rest : List String} : (∀ s ∈ rest, PlainName s) →
      Anchored m c here ("self" :: rest) (nestPath m (here ++ rest))
  | parent {up down rest : List String} : here = up ++ down → down ≠ [] → (∀ s ∈ rest, PlainName s) →
      Anchored m c here (List.replicate down.length "super" ++ rest) (nestPath m (up ++ rest))
  | inner {i : Ident} {content : Option (List Item)} {rest : List String} :
      Item.module i content ∈ c → PlainName i.text → (∀ s ∈ rest, PlainName s) →
      Anchored m c here (i.text :: rest) (nestPath m (here ++ i.text :: rest))

/-- `Refers m c here params ws target`: a type path with the segments `ws`, written in the
module `nestPath m here` whose items are `c`, with the type parameters `params` in scope, names
the declaration at `target`. -/
inductive Refers (m : String) (c : List Item) (here params : List String) : List String → String → Prop
  | own {y : String} : PlainName y → y ∉ params → NoAlias c y → (∀ u, ¬ Imports c y u) →
      prelude.lookup y = none → Known.isPrimitive y = false → y ≠ "str" →
      Refers m c here params [y] (nestPath m (here ++ [y]))
  | imported {y : String} {u : List String} {target : String} : y ∉ params → NoAlias c y →
      Imports c y u → (∀ u', Imports c y u' → u' = u) → Anchored m c here u target →
      Refers m c here params [y] target
  | viaImport {y : String} {u rest : List String} {target : String} : rest ≠ [] →
      (∀ s ∈ rest, PlainName s) → Imports c y u → (∀ u', Imports c y u' → u' = u) →
      Anchored m c here u target → Refers m c here params (y :: rest) (nestPath target rest)
  | anchored {first : String} {rest : List String} {target : String} : rest ≠ [] →
      (∀ s ∈ rest, PlainName s) → (∀ u, ¬ Imports c first u) → Anchored m c here [first] target →
      Refers m c here params (first :: rest) (nestPath target rest)

/-! ### Paths of the crate -/

theorem nestPath_prefix (module : String) (segs : List String) : ∃ t, nestPath module segs = module ++ t := by
  induction segs generalizing module with
  | nil => exact ⟨"", by simp [nestPath]⟩
  | cons s segs ih =>
    obtain ⟨t, ht⟩ := ih (module ++ "::" ++ s)
    exact ⟨"::" ++ s ++ t, by rw [nestPath_cons, ht]; simp only [String.append_assoc]⟩

theorem CrateModule.eq_crate {m : String} (hm : CrateModule m) : ∃ t, m = "crate" ++ t := by
  obtain ⟨rest, hrest⟩ : ∃ rest, Path.segments m = "crate" :: rest := by
    cases h : Path.segments m with
    | nil => exact absurd h (Path.segments_ne_nil m)
    | cons s rest =>
      have hs := hm.first
      rw [h] at hs
      exact ⟨rest, by simpa using hs⟩
  obtain ⟨t, ht⟩ := nestPath_prefix "crate" rest
  refine ⟨t, ?_⟩
  rw [← Path.intercalate_segments m, hrest, ← nestPath_eq, ht]

theorem crate_prefix_nestPath {target : String} (h : ∃ t, target = "crate" ++ t) (rest : List String) :
    ∃ t, nestPath target rest = "crate" ++ t := by
  obtain ⟨t, rfl⟩ := h
  obtain ⟨t', ht'⟩ := nestPath_prefix ("crate" ++ t) rest
  exact ⟨t ++ t', by rw [ht', String.append_assoc]⟩

theorem CrateModule.nestPath {m : String} (hm : CrateModule m) (segs : List String) :
    ∃ t, nestPath m segs = "crate" ++ t :=
  crate_prefix_nestPath hm.eq_crate segs

theorem head_crate (t : String) : ("crate" ++ t).toList.head? = some 'c' := by simp

theorem stdPath_crate (t : String) : stdPath ("crate" ++ t) = "crate" ++ t := by
  simp [stdPath]

/-! ### Anchored paths -/

theorem colonFree_of_plain {rest : List String} (h : ∀ s ∈ rest, PlainName s) :
    ∀ s ∈ rest, ':' ∉ s.toList :=
  fun s hs => (h s hs).colonFree

theorem colonFree_cons {a : String} {rest : List String} (ha : ':' ∉ a.toList) (h : ∀ s ∈ rest, PlainName s) :
    ∀ s ∈ a :: rest, ':' ∉ s.toList := by
  intro s hs
  rcases List.mem_cons.mp hs with rfl | hs
  · exact ha
  · exact (h s hs).colonFree

theorem PlainName.not_anchor {s : String} (h : PlainName s) : s ∉ ["crate", "self", "super"] := by
  intro hs
  apply h.2
  simp only [List.mem_cons, List.not_mem_nil, or_false] at hs ⊢
  tauto

theorem span_supers {rest : List String} (h : ∀ s ∈ rest, PlainName s) (k : Nat) :
    (List.replicate k "super" ++ rest).takeWhile (· == "super") = List.replicate k "super" ∧
      (List.replicate k "super" ++ rest).dropWhile (· == "super") = rest := by
  induction k with
  | zero =>
    cases rest with
    | nil => exact ⟨rfl, rfl⟩
    | cons s rest =>
      have hs : s ≠ "super" := fun hs => (h s List.mem_cons_self).2 (by simp [hs])
      simp [hs]
  | succ k ih => simp [List.replicate_succ, ih.1, ih.2]

section Anchoring

variable {m : String} {c : List Item} {here : List String}

theorem segments_module (hm : CrateModule m) (hhere : ∀ s ∈ here, PlainName s) :
    Path.segments (Names.ofItems (nestPath m here) c).module = Path.segments m ++ here :=
  segments_nestPath hm.plain (colonFree_of_plain hhere)

theorem Anchored.absolute {u : List String} {target : String} (h : Anchored m c here u target)
    (hm : CrateModule m) (hhere : ∀ s ∈ here, PlainName s) :
    (Names.ofItems (nestPath m here) c).absolute ("::".intercalate u) = target := by
  cases h with
  | crateRoot hrest =>
    rw [Names.absolute_crate (Path.segments_intercalate (List.cons_ne_nil _ _)
      (colonFree_cons (by decide) hrest)), nestPath_eq]
  | current hrest =>
    rw [Names.absolute_self (Path.segments_intercalate (List.cons_ne_nil _ _)
      (colonFree_cons (by decide) hrest)), segments_module hm hhere, List.append_assoc,
      intercalate_segments_append]
  | @parent up down rest hsplit hdown hrest =>
    obtain ⟨k, hk⟩ : ∃ k, down.length = k + 1 :=
      Nat.exists_eq_succ_of_ne_zero (by simpa using hdown)
    have hsegs : ∀ s ∈ List.replicate down.length "super" ++ rest, ':' ∉ s.toList := by
      intro s hs
      rcases List.mem_append.mp hs with hs | hs
      · rw [List.eq_of_mem_replicate hs]
        decide
      · exact (hrest s hs).colonFree
    have hread := Path.segments_intercalate (by simp [hk]) hsegs
    rw [hk, List.replicate_succ, List.cons_append] at hread ⊢
    have hlen : (Path.segments m).length ≠ 0 := by simpa using Path.segments_ne_nil m
    obtain ⟨htake, hdrop⟩ := span_supers hrest k
    rw [Names.absolute_super hread, segments_module hm hhere, htake, hdrop, List.length_replicate, hsplit]
    have hkept : max 1 ((Path.segments m ++ (up ++ down)).length - (k + 1)) =
        (Path.segments m ++ up).length := by
      simp only [List.length_append]
      omega
    rw [hkept, ← List.append_assoc, List.take_left, List.append_assoc, intercalate_segments_append]
  | inner hi hname hrest =>
    rw [Names.absolute_inner (Path.segments_intercalate (List.cons_ne_nil _ _)
        (colonFree_cons hname.colonFree hrest)) hname.not_anchor (Names.ofItems_localModules hi),
      segments_module hm hhere, List.append_assoc, intercalate_segments_append]

end Anchoring

namespace Names

variable {n : Names} {p : SynPath} {y : String}

theorem resolveIdent_imported {path : String} (h : n.imports.get? y = some path) :
    n.resolveIdent y = path := by
  simp [resolveIdent, h]

theorem resolveIdent_own (h : n.imports.get? y = none) (hp : prelude.lookup y = none)
    (hs : Known.isPrimitive y = false) (hstr : y ≠ "str") : n.resolveIdent y = n.module ++ "::" ++ y := by
  simp [resolveIdent, h, hp, hs, hstr]

theorem resolvePath_single (hp : p.segments.map (·.ident.text) = [y]) :
    n.resolvePath p = stdPath (n.resolveIdent y) := by
  simp [resolvePath, hp]

theorem resolvePath_imported {r : String} {rest : List String} {head : String}
    (hp : p.segments.map (·.ident.text) = y :: r :: rest) (h : n.imports.get? y = some head) :
    n.resolvePath p = stdPath (head ++ "::" ++ "::".intercalate (r :: rest)) := by
  simp [resolvePath, hp, h]

theorem resolvePath_anchored {r : String} {rest : List String}
    (hp : p.segments.map (·.ident.text) = y :: r :: rest) (h : n.imports.get? y = none) :
    n.resolvePath p = stdPath (n.absolute y ++ "::" ++ "::".intercalate (r :: rest)) := by
  simp [resolvePath, hp, h]

end Names

theorem append_intercalate {target : String} {rest : List String} (h : rest ≠ []) :
    target ++ "::" ++ "::".intercalate rest = nestPath target rest := by
  rw [nestPath_eq, String.intercalate_cons_of_ne_nil h]

section Resolving

variable {m : String} {c : List Item} {here : List String}

theorem Anchored.crate_prefix {u : List String} {target : String} (h : Anchored m c here u target)
    (hm : CrateModule m) : ∃ t, target = "crate" ++ t := by
  cases h with
  | crateRoot => exact nestPath_prefix "crate" _
  | current => exact hm.nestPath _
  | parent => exact hm.nestPath _
  | inner => exact hm.nestPath _

theorem Refers.crate_prefix {params ws : List String} {target : String}
    (h : Refers m c here params ws target) (hm : CrateModule m) : ∃ t, target = "crate" ++ t := by
  cases h with
  | own => exact hm.nestPath _
  | imported _ _ _ _ ha => exact ha.crate_prefix hm
  | viaImport _ _ _ _ ha => exact crate_prefix_nestPath (ha.crate_prefix hm) _
  | anchored _ _ _ ha => exact crate_prefix_nestPath (ha.crate_prefix hm) _

theorem Refers.resolvePath {params ws : List String} {target : String}
    (h : Refers m c here params ws target) (hm : CrateModule m) (hhere : ∀ s ∈ here, PlainName s)
    {p : SynPath} (hp : p.segments.map (·.ident.text) = ws) :
    (Names.ofItems (nestPath m here) c).resolvePath p = target := by
  obtain ⟨t, ht⟩ := h.crate_prefix hm
  have hstd : stdPath target = target := by rw [ht, stdPath_crate]
  rw [← hstd]
  cases h with
  | own _ _ _ hnot hprelude hscalar hstr =>
    rw [Names.resolvePath_single hp, Names.resolveIdent_own (Names.ofItems_imports_none hnot) hprelude
      hscalar hstr, nestPath_append]
    rfl
  | imported _ _ himp huniq ha =>
    rw [Names.resolvePath_single hp, Names.resolveIdent_imported (Names.ofItems_imports himp huniq),
      ha.absolute hm hhere]
  | viaImport hne _ himp huniq ha =>
    obtain ⟨r, rest, rfl⟩ := List.exists_cons_of_ne_nil hne
    rw [Names.resolvePath_imported hp (Names.ofItems_imports himp huniq), ha.absolute hm hhere,
      append_intercalate hne]
  | anchored hne _ hnot ha =>
    obtain ⟨r, rest, rfl⟩ := List.exists_cons_of_ne_nil hne
    have hfirst := ha.absolute hm hhere
    rw [String.intercalate_singleton] at hfirst
    rw [Names.resolvePath_anchored hp (Names.ofItems_imports_none hnot), hfirst, append_intercalate hne]

end Resolving

/-! ### Lowering a reference -/

theorem crate_not_mem {t : String} {l : List String} (hl : ∀ s ∈ l, s.toList.head? ≠ some 'c') :
    "crate" ++ t ∉ l :=
  fun h => hl _ h (head_crate t)

theorem crate_not_special (t : String) :
    "crate" ++ t ≠ optionPath ∧ "crate" ++ t ≠ "str" ∧ "crate" ++ t ∉ transparentWrappers ∧
      "crate" ++ t ∉ inlineArrayVecs := by
  have hopt : "crate" ++ t ∉ [optionPath, "str"] := crate_not_mem (by decide)
  simp only [List.mem_cons, List.not_mem_nil, or_false, not_or] at hopt
  exact ⟨hopt.1, hopt.2, crate_not_mem (by decide), crate_not_mem (by decide)⟩

theorem Lowering.named_crate (L : Lowering) {p : SynPath} (args : List (TypeRef × Option TypeRef))
    {t : String}
    (hsingle : ∀ y, p.segments.map (·.ident.text) = [y] → y ∉ L.params ∧ L.names.aliases.get? y = none)
    (hres : L.names.resolvePath p = "crate" ++ t) :
    L.named p args = .named ("crate" ++ t) (args.map (·.1)) false := by
  obtain ⟨hopt, hstr, hwrap, hvecs⟩ := crate_not_special t
  unfold Lowering.named
  -- only a path of one segment can be a type parameter or an alias
  match hs : p.segments with
  | [s] =>
    obtain ⟨hparam, halias⟩ := hsingle s.ident.text (by simp [hs])
    simp [Option.filter, hparam, halias, hres, hopt, hstr, hwrap, hvecs]
  | [] => simp [hres, hopt, hstr, hwrap, hvecs]
  | _ :: _ :: _ => simp [hres, hopt, hstr, hwrap, hvecs]

theorem lowerType_crate {names : Names} {params : List String} {p : SynPath} {t : String}
    (hsingle : ∀ y, p.segments.map (·.ident.text) = [y] → y ∉ params ∧ names.aliases.get? y = none)
    (hres : names.resolvePath p = "crate" ++ t) :
    ∃ args, lowerType names params (.path p) = .named ("crate" ++ t) args false := by
  obtain ⟨g, segs⟩ := p
  exact ⟨_, (Lowering.withBudget names aliasDepth params).named_crate _ hsingle hres⟩

section Lowering

variable {m : String} {c : List Item} {here params ws : List String} {target : String}

theorem Refers.single (h : Refers m c here params ws target) {y : String} (hy : ws = [y]) :
    y ∉ params ∧ NoAlias c y := by
  cases h with
  | own _ hparam halias =>
    obtain rfl := List.singleton_inj.mp hy
    exact ⟨hparam, halias⟩
  | imported hparam halias =>
    obtain rfl := List.singleton_inj.mp hy
    exact ⟨hparam, halias⟩
  | viaImport hne =>
    obtain ⟨r, rest, rfl⟩ := List.exists_cons_of_ne_nil hne
    simp at hy
  | anchored hne =>
    obtain ⟨r, rest, rfl⟩ := List.exists_cons_of_ne_nil hne
    simp at hy

theorem Refers.lowerType (h : Refers m c here params ws target) (hm : CrateModule m)
    (hhere : ∀ s ∈ here, PlainName s) {p : SynPath} (hp : p.segments.map (·.ident.text) = ws) :
    ∃ args, lowerType (Names.ofItems (nestPath m here) c) params (.path p) = .named target args false := by
  obtain ⟨t, rfl⟩ := h.crate_prefix hm
  refine lowerType_crate (fun y hy => ?_) (h.resolvePath hm hhere hp)
  obtain ⟨hparam, halias⟩ := h.single (hp.symm.trans hy)
  exact ⟨hparam, Names.ofItems_aliases halias⟩

end Lowering

/-! ### Where a file's items are declared -/

theorem itemEffects_subset {names : Names} {scope : Scope} {item : Item} {items : List Item}
    (h : item ∈ items) : itemEffects names scope item ⊆ itemsEffects names scope items := by
  induction items with
  | nil => cases h
  | cons a items ih =>
    rw [itemsEffects]
    rcases List.mem_cons.mp h with rfl | h
    · exact List.subset_append_left _ _
    · exact List.subset_append_of_subset_right _ (ih h)

theorem ModuleAt.effects_subset {items c : List Item} {segs : List String} (h : ModuleAt items segs c)
    {item : Item} (hi : item ∈ c) (module : String) :
    itemEffects (Names.ofItems (nestPath module segs) c) ⟨nestPath module segs, .topLevel⟩ item ⊆
      fileEffects module items := by
  induction h generalizing module with
  | top items => exact itemEffects_subset hi
  | @inner items sub c segs i hmod _ ih =>
    have hsub : itemEffects (Names.ofItems module items) ⟨module, .topLevel⟩ (.module i (some sub)) ⊆
        fileEffects module items := itemEffects_subset hmod
    exact List.Subset.trans (ih hi (module ++ "::" ++ i.text)) hsub

theorem ModuleAt.declares {items c : List Item} {segs : List String} (h : ModuleAt items segs c)
    {x : Ident} (hx : DeclaresType c x) (module : String) :
    ∃ d ∈ declared module items, d.name = nestPath module (segs ++ [x.name]) := by
  have hname : nestPath module (segs ++ [x.name]) = nestPath module segs ++ "::" ++ x.name := by
    rw [nestPath_append]
    rfl
  rw [hname]
  rcases hx with ⟨attrs, gen, fields, hs⟩ | ⟨attrs, gen, variants, he⟩
  · have heff := h.effects_subset hs module
    exact ⟨_, List.mem_filterMap.mpr ⟨_, heff (List.mem_singleton.mpr rfl), rfl⟩, rfl⟩
  · have heff := h.effects_subset he module
    exact ⟨_, List.mem_filterMap.mpr ⟨_, heff (List.mem_singleton.mpr rfl), rfl⟩, rfl⟩

end TypeBridge.Source

namespace TypeBridge

namespace Registry

variable {r : Registry} {x : String}

theorem names_register (d : Decl) (h : x ∈ r.decls.map Decl.name) : x ∈ (r.register d).decls.map Decl.name := by
  obtain ⟨e, he, rfl⟩ := List.mem_map.mp h
  by_cases hname : e.name = d.name
  · exact List.mem_map.mpr ⟨d, mem_register_self d, hname.symm⟩
  · exact List.mem_map_of_mem (mem_register_of_ne he d hname)

end Registry

namespace Source

theorem Effect.names_apply {g : Generator} {x : String} (eff : Effect)
    (h : x ∈ g.registry.decls.map Decl.name) : x ∈ (eff.apply g).registry.decls.map Decl.name := by
  cases eff with
  | declare d root =>
    show x ∈ (g.declare d root).registry.decls.map Decl.name
    rw [Generator.declare_decls]
    exact Registry.names_register d h
  | defer => exact h

theorem Effect.name_apply {g : Generator} {eff : Effect} {d : Decl} (h : eff.declared? = some d) :
    d.name ∈ (eff.apply g).registry.decls.map Decl.name := by
  cases eff with
  | declare d' root =>
    obtain rfl : d' = d := Option.some.inj h
    show d'.name ∈ (g.declare d' root).registry.decls.map Decl.name
    rw [Generator.declare_decls]
    exact List.mem_map_of_mem (Registry.mem_register_self d')
  | defer => cases h

theorem foldl_apply_names_mono (effs : List Effect) {g : Generator} {x : String}
    (h : x ∈ g.registry.decls.map Decl.name) : x ∈ (effs.foldl Effect.apply g).registry.decls.map Decl.name := by
  induction effs generalizing g with
  | nil => exact h
  | cons eff effs ih => exact ih (eff.names_apply h)

theorem foldl_apply_names {effs : List Effect} {g : Generator} {d : Decl}
    (hd : d ∈ effs.filterMap Effect.declared?) :
    d.name ∈ (effs.foldl Effect.apply g).registry.decls.map Decl.name := by
  induction effs generalizing g with
  | nil => cases hd
  | cons eff effs ih =>
    rw [List.foldl_cons]
    obtain ⟨e, he, hed⟩ := List.mem_filterMap.mp hd
    rcases List.mem_cons.mp he with rfl | he
    · exact foldl_apply_names_mono effs (Effect.name_apply hed)
    · exact ih (List.mem_filterMap.mpr ⟨e, he, hed⟩)

end Source

end TypeBridge

namespace TypeBridge.Generator

open Source Rust

theorem readParsed_lookup {g : Generator} (hg : g.registry.WellFormed) {module : String}
    {items : List Item} {d : Decl} (hd : d ∈ declared module items) :
    ∃ d', (g.readParsed module items).registry.lookup? d.name = some d' ∧ d'.name = d.name := by
  rw [readParsed_eq]
  have hwf := foldl_apply_wellFormed (fileEffects module items) hg
  have hgrows := attachDeferred_grows hwf
  have hname : d.name ∈
      ((fileEffects module items).foldl Effect.apply g).attachDeferred.registry.decls.map Decl.name := by
    rw [hgrows.names]
    exact foldl_apply_names hd
  obtain ⟨d', hd', hd'name⟩ := List.mem_map.mp hname
  exact ⟨d', hd'name ▸ Registry.lookup?_name (hgrows.wellFormed hwf) hd', hd'name⟩

/-- Declaration naming and reference resolution agree. In a file read into a module `m` of the
crate, let `x` be a struct or an enum of the module that the inline modules `there` lead to, and
let a path written in the module at `here` name it in one of the forms of `Refers`. The file
declares `x` under the path of its module and its name; the structs of the module at `here` are
read with that module's names; with them the path lowers to the named type at `x`'s path; and
after the file is read, looking that path up finds the declaration registered under it. -/
theorem field_reference_lookup {m : String} (hm : CrateModule m) {items : List Item}
    {here there : List String} {c c' : List Item} (hc : ModuleAt items here c)
    (hhere : ∀ s ∈ here, PlainName s) (hc' : ModuleAt items there c') {x : Ident}
    (hx : DeclaresType c' x) {attrs : List Attr} {h : Ident} {gen : Generics} {fs : List Field}
    (hh : Item.struct attrs h gen (.named fs) ∈ c) {p : SynPath}
    (href : Refers m c here gen.paramNames (p.segments.map (·.ident.text)) (nestPath m (there ++ [x.name])))
    {g : Generator} (hg : g.registry.WellFormed) :
    (∃ d ∈ declared m items, d.name = nestPath m (there ++ [x.name])) ∧
      (∃ root, Effect.declare (structDecl (Names.ofItems (nestPath m here) c)
        ⟨nestPath m here, .topLevel⟩ attrs h gen (.named fs)) root ∈ fileEffects m items) ∧
      (∃ args, lowerType (Names.ofItems (nestPath m here) c) gen.paramNames (.path p) =
        .named (nestPath m (there ++ [x.name])) args false) ∧
      ∃ d, (g.readParsed m items).registry.lookup? (nestPath m (there ++ [x.name])) = some d ∧
        d.name = nestPath m (there ++ [x.name]) := by
  obtain ⟨d, hd, hname⟩ := hc'.declares hx m
  have hlookup := readParsed_lookup hg hd
  rw [hname] at hlookup
  exact ⟨⟨d, hd, hname⟩, ⟨_, hc.effects_subset hh m (List.mem_singleton.mpr rfl)⟩,
    href.lowerType hm hhere rfl, hlookup⟩

def plainField (name ty : String) : Field :=
  ⟨[], some ⟨name, false⟩, .path (.mk false [.mk ⟨ty, false⟩ .none])⟩

def superPoint : SynPath := .mk false [.mk ⟨"super", false⟩ .none, .mk ⟨"Point", false⟩ .none]

def solidItems : List Item :=
  [.struct [] ⟨"Cube", false⟩ {} (.named [⟨[], some ⟨"corner", false⟩, .path superPoint⟩])]

def shapesItems : List Item :=
  [.struct [] ⟨"Point", false⟩ {} (.named [plainField "x" "u8"]), .module ⟨"solid", false⟩ (some solidItems)]

def shapesFile : List Item := [.module ⟨"shapes", false⟩ (some shapesItems)]

theorem cube_corner_lookup :
    Refers "crate" solidItems ["shapes", "solid"] [] ["super", "Point"] (nestPath "crate" ["shapes", "Point"]) ∧
      (∃ args, lowerType (Names.ofItems "crate::shapes::solid" solidItems) [] (.path superPoint) =
          .named "crate::shapes::Point" args false) ∧
      ∃ d, (({} : Generator).readParsed "crate" shapesFile).registry.lookup? "crate::shapes::Point" = some d ∧
        d.name = "crate::shapes::Point" := by
  have hanchor : Anchored "crate" solidItems ["shapes", "solid"] ["super"] (nestPath "crate" ["shapes"]) :=
    @Anchored.parent "crate" solidItems ["shapes", "solid"] ["shapes"] ["solid"] [] rfl (by simp) (by simp)
  have href : Refers "crate" solidItems ["shapes", "solid"] [] (superPoint.segments.map (·.ident.text))
      (nestPath "crate" (["shapes"] ++ ["Point"])) :=
    Refers.anchored (by simp) (by decide) (fun u ⟨t, ht, _⟩ => by simp [solidItems] at ht) hanchor
  have hc : ModuleAt shapesFile ["shapes", "solid"] solidItems :=
    .inner ⟨"shapes", false⟩ List.mem_cons_self
      (.inner ⟨"solid", false⟩ (List.mem_cons_of_mem _ List.mem_cons_self) (.top _))
  have hc' : ModuleAt shapesFile ["shapes"] shapesItems := .inner ⟨"shapes", false⟩ List.mem_cons_self (.top _)
  have hx : DeclaresType shapesItems ⟨"Point", false⟩ := .inl ⟨[], {}, _, List.mem_cons_self⟩
  have hm : CrateModule "crate" := ⟨by decide, by decide⟩
  obtain ⟨-, -, hlower, hlookup⟩ := field_reference_lookup hm hc (by decide) hc' hx
    List.mem_cons_self href coherent_default.wellFormed
  exact ⟨href, hlower, hlookup⟩

def innerHolderItems : List Item :=
  [.struct [] ⟨"Holder", false⟩ {} (.named [⟨[], some ⟨"p", false⟩, .path (.mk false
    [.mk ⟨"super", false⟩ .none, .mk ⟨"super", false⟩ .none, .mk ⟨"Point", false⟩ .none])⟩])]

def nestedPointsFile : List Item :=
  [.struct [] ⟨"Point", false⟩ {} (.named [plainField "x" "u8"]),
   .module ⟨"a", false⟩ (some [.struct [] ⟨"Point", false⟩ {} (.named [plainField "y" "u8"]),
     .module ⟨"b", false⟩ (some innerHolderItems)])]

/-- A path written with two leading `super`s is anchored two modules up, at `crate::Point`, but
resolution anchors only its first segment: the field lowers to `crate::a::super::Point`, which
is no declared path, and no simple-name fallback applies beside two `Point`s. -/
theorem superSuper_path_unresolved :
    Anchored "crate" innerHolderItems ["a", "b"] ["super", "super", "Point"] "crate::Point" ∧
      ((({} : Generator).readParsed "crate" nestedPointsFile).registry.find? "crate::a::b::Holder").map
          (fun d => d.members.map (·.ty)) = some [.named "crate::a::super::Point" [] false] ∧
      (({} : Generator).readParsed "crate" nestedPointsFile).registry.lookup? "crate::a::super::Point" = none ∧
      ((({} : Generator).readParsed "crate" nestedPointsFile).registry.find? "crate::Point").isSome := by
  refine ⟨?_, by decide +kernel⟩
  -- two levels up from `crate::a::b` is the crate root
  exact @Anchored.parent "crate" innerHolderItems ["a", "b"] [] ["a", "b"] ["Point"] rfl (by simp) (by decide)

def shadowingFile : List Item :=
  [.struct [] ⟨"String", false⟩ {} (.named [plainField "len" "usize"]),
   .struct [] ⟨"u8", false⟩ {} (.named [plainField "bits" "bool"]),
   .module ⟨"shapes", false⟩ (some [.struct [] ⟨"Point", false⟩ {} (.named [plainField "x" "u8"])]),
   .fn ⟨"shapes", false⟩ [.struct [] ⟨"Point", false⟩ {} (.named [plainField "y" "u8"])],
   .struct [] ⟨"Holder", false⟩ {} (.named [plainField "name" "String", plainField "small" "u8",
     plainField "next" "Self",
     ⟨[], some ⟨"at", false⟩, .path (.mk false [.mk ⟨"shapes", false⟩ .none, .mk ⟨"Point", false⟩ .none])⟩])]

/-- `Holder`'s fields lower to `std::string::String`, `u8`, `crate::Self` and
`crate::shapes::Point`. The first three find no declaration, though `crate::String` and
`crate::u8` are declared; the last finds the function's local `Point`, not the module's. -/
theorem shadowed_names_resolve_elsewhere :
    ((({} : Generator).readParsed "crate" shadowingFile).registry.find? "crate::Holder").map
        (fun d => d.members.map (·.ty)) =
      some [.named "std::string::String" [] false, .named "u8" [] false, .named "crate::Self" [] false,
        .named "crate::shapes::Point" [] false] ∧
    (({} : Generator).readParsed "crate" shadowingFile).registry.lookup? "std::string::String" = none ∧
    (({} : Generator).readParsed "crate" shadowingFile).registry.lookup? "u8" = none ∧
    (({} : Generator).readParsed "crate" shadowingFile).registry.lookup? "crate::Self" = none ∧
    ((({} : Generator).readParsed "crate" shadowingFile).registry.find? "crate::String").isSome ∧
    ((({} : Generator).readParsed "crate" shadowingFile).registry.find? "crate::u8").isSome ∧
    ((({} : Generator).readParsed "crate" shadowingFile).registry.lookup? "crate::shapes::Point").map
      (·.origin) = some .inFunction := by
  decide +kernel

end TypeBridge.Generator
