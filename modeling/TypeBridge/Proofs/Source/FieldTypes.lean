import TypeBridge.Proofs.Source.Aliases
import TypeBridge.Proofs.Source.Declarations
/-!
# Field types written in source

`SourceFragment` is the set of written field types that the table of `FieldText` covers.
Lowering takes each into `FieldText.InFragment`, nullable exactly when the type is `Option` once
references and wrappers are taken off (`OptionalAtTop`), so a field of an extracted struct is
written with the table's text of its lowered type (`extracted_field_line`).
-/

namespace TypeBridge.Source

open Rust

/-- A path that names neither a type parameter nor an alias of the scope, and resolves to `c`. -/
structure ResolvesTo (names : Names) (params : List String) (p : SynPath) (c : String) : Prop where
  plain : ∀ q ∈ p.single?, q ∉ params ∧ names.aliases.get? q = none
  resolves : names.resolvePath p = c

instance (names : Names) (params : List String) (p : SynPath) (c : String) :
    Decidable (ResolvesTo names params p c) :=
  decidable_of_iff ((∀ q ∈ p.single?, q ∉ params ∧ names.aliases.get? q = none) ∧ names.resolvePath p = c)
    ⟨fun ⟨h₁, h₂⟩ => ⟨h₁, h₂⟩, fun ⟨h₁, h₂⟩ => ⟨h₁, h₂⟩⟩

theorem ResolvesTo.unique {names : Names} {params : List String} {p : SynPath} {c c' : String}
    (h : ResolvesTo names params p c) (h' : ResolvesTo names params p c') : c = c' :=
  h.resolves.symm.trans h'.resolves

def readSpecially (c : String) : Bool :=
  c == optionPath || c == "str" || transparentWrappers.contains c || inlineArrayVecs.contains c

theorem readSpecially_of_scalar {c : String} (h : (FieldText.scalar? c).isSome) : readSpecially c = false := by
  obtain ⟨text, ht⟩ := Option.isSome_iff_exists.mp h
  have hall : ∀ e ∈ FieldText.scalars, readSpecially e.1 = false := by decide
  exact hall _ (Keyed.mem_of_lookup ht)

theorem readSpecially_of_collection {c : String}
    (h : c ∈ FieldText.sequences ∨ c ∈ FieldText.sets ∨ c ∈ FieldText.maps) : readSpecially c = false := by
  have hall : ∀ e ∈ FieldText.sequences ++ FieldText.sets ++ FieldText.maps, readSpecially e = false := by decide
  exact hall c (by simp only [List.mem_append]; tauto)

theorem canonicalType_of_readSpecially {c : String} (h : readSpecially c = false) (args : List (TypeRef × Option TypeRef)) :
    canonicalType c args = .named c (args.map (·.1)) false := by
  simp only [readSpecially, Bool.or_eq_false_iff, beq_eq_false_iff_ne] at h
  obtain ⟨⟨⟨hopt, hstr⟩, hwrap⟩, hvec⟩ := h
  have hwrap' : c ∉ transparentWrappers := by simpa using hwrap
  have hvec' : c ∉ inlineArrayVecs := by simpa using hvec
  simp [canonicalType, hopt, hstr, hwrap', hvec']

/-! ### Lowering a path that resolves -/

namespace Lowering

variable (L : Lowering)

theorem genericArgs_fst : ∀ as : List GenericArg, (L.genericArgs as).map (·.1) = (GenericArg.types as).map L.ty
  | [] => rfl
  | .type t :: as => by simp [genericArgs, GenericArg.types, genericArgs_fst as]
  | .other :: as => by simp [genericArgs, GenericArg.types, genericArgs_fst as]

theorem lastArgs_fst : ∀ segs : List Segment, (L.lastArgs segs).map (·.1) = (Segment.lastTypes segs).map L.ty
  | [] => rfl
  | [.mk _ (.angle as)] => L.genericArgs_fst as
  | [.mk _ .none] => rfl
  | [.mk _ (.paren _ _)] => rfl
  | _ :: s :: segs => by
    simp only [lastArgs, Segment.lastTypes]
    exact lastArgs_fst (s :: segs)

variable {L} {p : SynPath} {c : String}

theorem ty_of_resolvesTo (h : ResolvesTo L.names L.params p c) :
    L.ty (.path p) = canonicalType c (L.lastArgs p.segments) := by
  obtain ⟨g, segs⟩ := p
  rw [ty_path, named_of_resolved _ (fun q hq => h.plain q hq), h.resolves]
  rfl

theorem ty_of_readSpecially (h : ResolvesTo L.names L.params p c) (hc : readSpecially c = false) :
    L.ty (.path p) = .named c (p.typeArgs.map L.ty) false := by
  rw [ty_of_resolvesTo h, canonicalType_of_readSpecially hc, lastArgs_fst]
  rfl

theorem lastArgs_fst_of_typeArgs {e : Ty} (he : p.typeArgs = [e]) :
    (L.lastArgs p.segments).map (·.1) = [L.ty e] := by
  rw [L.lastArgs_fst, show Segment.lastTypes p.segments = [e] from he, List.map_singleton]

theorem ty_option {e : Ty} (h : ResolvesTo L.names L.params p optionPath) (he : p.typeArgs = [e]) :
    L.ty (.path p) = (L.ty e).withNullable true := by
  rw [ty_of_resolvesTo h, canonicalType]
  simp [lastArgs_fst_of_typeArgs he]

theorem ty_str (h : ResolvesTo L.names L.params p "str") : L.ty (.path p) = TypeRef.simpleRef Known.string := by
  rw [ty_of_resolvesTo h]
  simp [canonicalType, optionPath]

theorem ty_wrapper {e : Ty} (h : ResolvesTo L.names L.params p c) (hc : c ∈ transparentWrappers)
    (he : p.typeArgs = [e]) : L.ty (.path p) = L.ty e := by
  have hall : ∀ w ∈ transparentWrappers, w ≠ optionPath ∧ w ≠ "str" := by decide
  have hnot := hall c hc
  rw [ty_of_resolvesTo h, canonicalType]
  simp [hnot.1, hnot.2, hc, lastArgs_fst_of_typeArgs he]

theorem ty_param {q : String} (hq : p.single? = some q) (hmem : q ∈ L.params) : L.ty (.path p) = .var q [] false := by
  obtain ⟨g, segs⟩ := p
  rw [ty_path, named_of_param _ hq hmem]

end Lowering

end TypeBridge.Source

/-! ### The fragment of the table after lowering -/

namespace TypeBridge.FieldText

variable {scope params : List String}

theorem InFragment.withNullable {t : TypeRef} (h : InFragment scope params t) (b : Bool) :
    InFragment scope params (t.withNullable b) := by
  cases h with
  | scalar hs => exact .scalar hs
  | sequence hn he => exact .sequence hn he
  | set hn he => exact .set hn he
  | map hn hk hv => exact .map hn hk hv
  | pair ha hc => exact .pair ha hc
  | param hv => exact .param hv
  | generated hn hargs => exact .generated hn hargs

theorem scalar?_primitiveArray {n arr : String} (h : Known.primitiveArray? n = some arr) :
    (scalar? arr).isSome := by
  have hnum : ∀ e ∈ Known.numerics, (scalar? ("[" ++ e ++ "]")).isSome := by decide
  unfold Known.primitiveArray? at h
  split at h
  · rename_i hn
    cases h
    rcases Bool.or_eq_true_iff.mp hn with hn | hn
    · exact hnum n (List.contains_iff_mem.mp hn)
    · rw [beq_iff_eq.mp hn]
      decide
  · cases h

theorem InFragment.arrayOf {z : TypeRef} (h : InFragment scope params z) :
    InFragment scope params (Source.arrayOf z) := by
  have hseq : Known.array ∈ sequences := by decide
  unfold Source.arrayOf
  split
  · rename_i n
    cases harr : Known.primitiveArray? n with
    | some arr => exact .scalar (scalar?_primitiveArray harr)
    | none => exact .sequence hseq h
  · exact .sequence hseq h

end TypeBridge.FieldText

/-! ### Written types of the fragment -/

namespace TypeBridge.Source

open Rust

/-- The written field types the table covers, in a scope with the names `names` and the type
parameters `params`, `scope` holding the simple names of the generated declarations. -/
inductive SourceFragment (names : Names) (params scope : List String) : Ty → Prop
  | scalar {p : SynPath} {c : String} : ResolvesTo names params p c → p.typeArgs = [] →
      (FieldText.scalar? c).isSome → SourceFragment names params scope (.path p)
  | str {p : SynPath} : ResolvesTo names params p "str" → SourceFragment names params scope (.path p)
  | unit : SourceFragment names params scope (.tuple [])
  | ref {e : Ty} : SourceFragment names params scope e → SourceFragment names params scope (.ref e)
  | paren {e : Ty} : SourceFragment names params scope e → SourceFragment names params scope (.paren e)
  | ptr {e : Ty} : SourceFragment names params scope e → SourceFragment names params scope (.ptr e)
  | option {p : SynPath} {e : Ty} : ResolvesTo names params p optionPath → p.typeArgs = [e] →
      SourceFragment names params scope e → SourceFragment names params scope (.path p)
  | wrapper {p : SynPath} {c : String} {e : Ty} : ResolvesTo names params p c → c ∈ transparentWrappers →
      p.typeArgs = [e] → SourceFragment names params scope e → SourceFragment names params scope (.path p)
  | sequence {p : SynPath} {c : String} {e : Ty} : ResolvesTo names params p c → c ∈ FieldText.sequences →
      p.typeArgs = [e] → SourceFragment names params scope e → SourceFragment names params scope (.path p)
  | set {p : SynPath} {c : String} {e : Ty} : ResolvesTo names params p c → c ∈ FieldText.sets →
      p.typeArgs = [e] → SourceFragment names params scope e → SourceFragment names params scope (.path p)
  | map {p : SynPath} {c : String} {k v : Ty} : ResolvesTo names params p c → c ∈ FieldText.maps →
      p.typeArgs = [k, v] → SourceFragment names params scope k → SourceFragment names params scope v →
      SourceFragment names params scope (.path p)
  | array {e : Ty} : SourceFragment names params scope e → SourceFragment names params scope (.array e)
  | slice {e : Ty} : SourceFragment names params scope e → SourceFragment names params scope (.slice e)
  | pair {a b : Ty} : SourceFragment names params scope a → SourceFragment names params scope b →
      SourceFragment names params scope (.tuple [a, b])
  | param {p : SynPath} {q : String} : p.single? = some q → q ∈ params → SourceFragment names params scope (.path p)
  | generated {p : SynPath} {c : String} : ResolvesTo names params p c → Path.simple c ∈ scope →
      readSpecially c = false → (∀ e ∈ p.typeArgs, SourceFragment names params scope e) →
      SourceFragment names params scope (.path p)

/-- A written type that is `Option<…>` once references, parentheses, pointers and transparent
wrappers are taken off. -/
inductive OptionalAtTop (names : Names) (params : List String) : Ty → Prop
  | option {p : SynPath} : ResolvesTo names params p optionPath → OptionalAtTop names params (.path p)
  | wrapper {p : SynPath} {c : String} {e : Ty} : ResolvesTo names params p c → c ∈ transparentWrappers →
      p.typeArgs = [e] → OptionalAtTop names params e → OptionalAtTop names params (.path p)
  | ref {e : Ty} : OptionalAtTop names params e → OptionalAtTop names params (.ref e)
  | paren {e : Ty} : OptionalAtTop names params e → OptionalAtTop names params (.paren e)
  | ptr {e : Ty} : OptionalAtTop names params e → OptionalAtTop names params (.ptr e)

namespace OptionalAtTop

variable {names : Names} {params : List String}

theorem path_iff {p : SynPath} :
    OptionalAtTop names params (.path p) ↔ ResolvesTo names params p optionPath ∨
      ∃ c e, ResolvesTo names params p c ∧ c ∈ transparentWrappers ∧ p.typeArgs = [e] ∧
        OptionalAtTop names params e := by
  constructor
  · rintro (h | ⟨h, hc, he, ho⟩)
    · exact .inl h
    · exact .inr ⟨_, _, h, hc, he, ho⟩
  · rintro (h | ⟨c, e, h, hc, he, ho⟩)
    · exact .option h
    · exact .wrapper h hc he ho

theorem not_path {p : SynPath} {c : String} (h : ResolvesTo names params p c) (hopt : c ≠ optionPath)
    (hw : c ∉ transparentWrappers) : ¬ OptionalAtTop names params (.path p) := by
  rw [path_iff]
  rintro (ho | ⟨c', e, ho, hw', -, -⟩)
  · exact hopt (h.unique ho)
  · exact hw (h.unique ho ▸ hw')

theorem not_path_of_readSpecially {p : SynPath} {c : String} (h : ResolvesTo names params p c)
    (hc : readSpecially c = false) : ¬ OptionalAtTop names params (.path p) := by
  simp only [readSpecially, Bool.or_eq_false_iff, beq_eq_false_iff_ne] at hc
  exact not_path h hc.1.1.1 (by simpa using hc.1.2)

theorem not_param {p : SynPath} {q : String} (hq : p.single? = some q) (hmem : q ∈ params) :
    ¬ OptionalAtTop names params (.path p) := by
  have hnot : ∀ c, ¬ ResolvesTo names params p c := fun c h => (h.plain q hq).1 hmem
  rw [path_iff]
  rintro (ho | ⟨c, e, ho, -⟩)
  · exact hnot _ ho
  · exact hnot _ ho

end OptionalAtTop

theorem nullable_arrayOf (z : TypeRef) : (arrayOf z).nullable = false := by
  unfold arrayOf
  split
  · split <;> rfl
  · rfl

theorem nullable_iff_of_readSpecially {L : Lowering} {p : SynPath} {c : String} (hr : ResolvesTo L.names L.params p c)
    (hc : readSpecially c = false) : (L.ty (.path p)).nullable = true ↔ OptionalAtTop L.names L.params (.path p) := by
  rw [Lowering.ty_of_readSpecially hr hc]
  simpa [TypeRef.nullable] using OptionalAtTop.not_path_of_readSpecially hr hc

namespace SourceFragment

open Lowering

variable {L : Lowering} {scope : List String} {t : Ty}

theorem inFragment (h : SourceFragment L.names L.params scope t) : FieldText.InFragment scope L.params (L.ty t) := by
  induction h with
  | scalar hr hargs hs =>
    rw [ty_of_readSpecially hr (readSpecially_of_scalar hs), hargs]
    exact .scalar hs
  | str hr =>
    rw [ty_str hr]
    exact .scalar (by decide)
  | unit => exact .scalar (by decide)
  | ref _ ih | paren _ ih | ptr _ ih => exact ih
  | option hr he _ ih =>
    rw [ty_option hr he]
    exact ih.withNullable true
  | wrapper hr hc he _ ih =>
    rw [ty_wrapper hr hc he]
    exact ih
  | sequence hr hc he _ ih =>
    rw [ty_of_readSpecially hr (readSpecially_of_collection (.inl hc)), he]
    exact .sequence hc ih
  | set hr hc he _ ih =>
    rw [ty_of_readSpecially hr (readSpecially_of_collection (.inr (.inl hc))), he]
    exact .set hc ih
  | map hr hc he _ _ ihk ihv =>
    rw [ty_of_readSpecially hr (readSpecially_of_collection (.inr (.inr hc))), he]
    exact .map hc ihk ihv
  | array _ ih | slice _ ih => exact ih.arrayOf
  | pair _ _ iha ihb => exact .pair iha ihb
  | param hq hmem =>
    rw [ty_param hq hmem]
    exact .param hmem
  | generated hr hs hc _ ih =>
    rw [ty_of_readSpecially hr hc]
    refine .generated hs fun a ha => ?_
    obtain ⟨e, he, rfl⟩ := List.mem_map.mp ha
    exact ih e he

theorem nullable_iff (h : SourceFragment L.names L.params scope t) :
    (L.ty t).nullable = true ↔ OptionalAtTop L.names L.params t := by
  induction h with
  | scalar hr _ hs => exact nullable_iff_of_readSpecially hr (readSpecially_of_scalar hs)
  | str hr =>
    rw [ty_str hr]
    simpa [TypeRef.simpleRef, TypeRef.nullable] using
      OptionalAtTop.not_path hr (by decide) (by decide)
  | unit =>
    simp only [Lowering.ty, TypeRef.simpleRef, TypeRef.nullable, Bool.false_eq_true, false_iff]
    nofun
  | ref _ ih => exact ih.trans ⟨.ref, fun | .ref h => h⟩
  | paren _ ih => exact ih.trans ⟨.paren, fun | .paren h => h⟩
  | ptr _ ih => exact ih.trans ⟨.ptr, fun | .ptr h => h⟩
  | option hr he _ _ =>
    rw [ty_option hr he, TypeRef.nullable_withNullable]
    exact ⟨fun _ => .option hr, fun _ => rfl⟩
  | @wrapper p c e hr hc he _ ih =>
    rw [ty_wrapper hr hc he, ih]
    refine ⟨.wrapper hr hc he, fun ho => ?_⟩
    rcases OptionalAtTop.path_iff.mp ho with ho | ⟨c', e', -, -, he', ho'⟩
    · -- a wrapper is not `Option`
      have hall : ∀ w ∈ transparentWrappers, w ≠ optionPath := by decide
      exact absurd (hr.unique ho) (hall c hc)
    · rw [he] at he'
      cases he'
      exact ho'
  | sequence hr hc _ _ _ => exact nullable_iff_of_readSpecially hr (readSpecially_of_collection (.inl hc))
  | set hr hc _ _ _ => exact nullable_iff_of_readSpecially hr (readSpecially_of_collection (.inr (.inl hc)))
  | map hr hc _ _ _ _ _ => exact nullable_iff_of_readSpecially hr (readSpecially_of_collection (.inr (.inr hc)))
  | array _ _ | slice _ _ =>
    simp only [Lowering.ty, nullable_arrayOf, Bool.false_eq_true, false_iff]
    nofun
  | pair _ _ _ _ =>
    simp only [Lowering.ty, TypeRef.nullable, Bool.false_eq_true, false_iff]
    nofun
  | param hq hmem =>
    rw [ty_param hq hmem]
    simpa [TypeRef.nullable] using OptionalAtTop.not_param hq hmem
  | generated hr _ hc _ _ => exact nullable_iff_of_readSpecially hr hc

end SourceFragment

/-! ### The fields of an extracted struct -/

def fieldMember (names : Names) (params : List String) (container : ContainerAttrs) (f : Field) : Option Member :=
  if (MemberAttrs.ofAttrs f.attrs).skip || (MemberAttrs.ofAttrs f.attrs).flatten then none
  else f.ident.map fun fi =>
    { name := fi.name, ty := lowerType names params f.ty, annotations := sortedSet (MemberAttrs.ofAttrs f.attrs).tags,
      serialName := (MemberAttrs.ofAttrs f.attrs).rename <|> container.rename fi.name false }

theorem foldl_fst_eq_filterMap {α β γ : Type} (step : List α × β → γ → List α × β) (g : γ → Option α)
    (hstep : ∀ acc x, (step acc x).1 = acc.1 ++ (g x).toList) :
    ∀ (xs : List γ) (acc : List α × β), (xs.foldl step acc).1 = acc.1 ++ xs.filterMap g
  | [], acc => by simp
  | x :: xs, acc => by
    rw [List.foldl_cons, foldl_fst_eq_filterMap step g hstep xs, hstep, List.filterMap_cons]
    cases g x <;> simp

theorem structDecl_members (names : Names) (sc : Scope) (attrs : List Attr) (i : Ident) (gen : Generics)
    (fs : List Field) :
    (structDecl names sc attrs i gen (.named fs)).members =
      fs.filterMap (fieldMember names gen.paramNames (ContainerAttrs.ofAttrs attrs)) := by
  simp only [structDecl]
  rw [foldl_fst_eq_filterMap _ (fieldMember names gen.paramNames (ContainerAttrs.ofAttrs attrs)), List.nil_append]
  intro acc f
  unfold fieldMember
  by_cases hs : (MemberAttrs.ofAttrs f.attrs).skip = true
  · simp [hs]
  by_cases hf : (MemberAttrs.ofAttrs f.attrs).flatten = true
  · by_cases hfix : hasFixedShape (lowerType names gen.paramNames f.ty) = true <;> simp [hs, hf, hfix]
  · cases f.ident <;> simp [hs, hf]

theorem typeParamsOf_names (gen : Generics) : (typeParamsOf gen).map (·.name) = gen.paramNames := by
  simp [typeParamsOf, Generics.paramNames]

end TypeBridge.Source

namespace TypeBridge

open Source Rust

/-- In the file of a run of generation without custom rules, with the built-in declarations
registered, take a struct declared as extraction reads it from source (with any interfaces that
`impl` blocks add), emitted in the file. A named field of it, neither skipped nor flattened, that
no later field names again and whose written type is in the source fragment stands on a line of
its own: its JSON name, `?` exactly when the type is `Option` once references and wrappers are
taken off, and the table's text of its lowered type, which lowering takes into the table's
fragment. -/
theorem extracted_field_line (g : Generator) (hb : g.registry.HasBuiltins) (hr : g.registry.WellFormed)
    (hrules : g.rules = []) {out : String} (hout : g.generate = .ok out) {res : Resolution}
    (hres : g.resolve = .ok res) {names : Names} {sc : Scope} {attrs : List Attr} {i : Ident}
    {gen : Generics} {fs : List Field} {more : List Supertype}
    (hSr : { structDecl names sc attrs i gen (.named fs) with
      supertypes := (structDecl names sc attrs i gen (.named fs)).supertypes ++ more } ∈ g.registry.decls)
    {t : Target} (ht : t ∈ res.types) (hname : t.name = sc.nameOf i)
    (hemit : g.emitter.emits g.registry.roots t = true)
    {pre post : List Field} {fd : Field} {fi : Ident} (hfields : fs = pre ++ fd :: post)
    (hskip : (MemberAttrs.ofAttrs fd.attrs).skip = false) (hflat : (MemberAttrs.ofAttrs fd.attrs).flatten = false)
    (hident : fd.ident = some fi) (hlast : ∀ x ∈ post, ∀ xi ∈ x.ident, xi.name ≠ fi.name)
    (hτ : SourceFragment names gen.paramNames (res.types.map Target.simple) fd.ty) :
    FieldText.InFragment (res.types.map Target.simple) gen.paramNames (lowerType names gen.paramNames fd.ty) ∧
      ((lowerType names gen.paramNames fd.ty).nullable = true ↔ OptionalAtTop names gen.paramNames fd.ty) ∧
      ∃ m ∈ t.members.values, m.name = fi.name ∧
        m.serialName = ((MemberAttrs.ofAttrs fd.attrs).rename <|> (ContainerAttrs.ofAttrs attrs).rename fi.name false) ∧
        ∃ a c, out = a ++ (g.config.baseIndent ++ g.config.indent ++ m.jsonName ++
          (if (lowerType names gen.paramNames fd.ty).nullable then "?" else "") ++ ": " ++
          FieldText.field (res.types.map Target.simple) gen.paramNames (lowerType names gen.paramNames fd.ty) ++
          ";\n") ++ c := by
  let m₀ : Member :=
    { name := fi.name, ty := lowerType names gen.paramNames fd.ty, annotations := sortedSet (MemberAttrs.ofAttrs fd.attrs).tags,
      serialName := (MemberAttrs.ofAttrs fd.attrs).rename <|> (ContainerAttrs.ofAttrs attrs).rename fi.name false }
  -- the field is the member `m₀`, and no later member has its name
  have hfd : fieldMember names gen.paramNames (ContainerAttrs.ofAttrs attrs) fd = some m₀ := by
    simp [fieldMember, hskip, hflat, hident, m₀]
  have hmembers : (structDecl names sc attrs i gen (.named fs)).members =
      pre.filterMap (fieldMember names gen.paramNames (ContainerAttrs.ofAttrs attrs)) ++
        m₀ :: post.filterMap (fieldMember names gen.paramNames (ContainerAttrs.ofAttrs attrs)) := by
    rw [structDecl_members, hfields, List.filterMap_append, List.filterMap_cons, hfd]
  have hpost : ∀ x ∈ post.filterMap (fieldMember names gen.paramNames (ContainerAttrs.ofAttrs attrs)),
      x.name ≠ m₀.name := by
    intro x hx
    obtain ⟨y, hy, hyx⟩ := List.mem_filterMap.mp hx
    simp only [fieldMember] at hyx
    split at hyx
    · cases hyx
    · obtain ⟨yi, hyi, rfl⟩ := Option.map_eq_some_iff.mp hyx
      exact hlast y hy yi hyi
  have hL : (Lowering.withBudget names aliasDepth gen.paramNames).names = names ∧
      (Lowering.withBudget names aliasDepth gen.paramNames).params = gen.paramNames := ⟨by simp, by simp⟩
  have hfrag : FieldText.InFragment (res.types.map Target.simple) gen.paramNames (lowerType names gen.paramNames fd.ty) := by
    have h := SourceFragment.inFragment (L := Lowering.withBudget names aliasDepth gen.paramNames) (by rw [hL.1, hL.2]; exact hτ)
    rwa [hL.2] at h
  have hnull := SourceFragment.nullable_iff (L := Lowering.withBudget names aliasDepth gen.paramNames) (by rw [hL.1, hL.2]; exact hτ)
  rw [hL.1, hL.2] at hnull
  have hparams : (typeParamsOf gen).map (·.name) = gen.paramNames := typeParamsOf_names gen
  obtain ⟨m, hm, hmn, hms, a, c, hline⟩ := generate_field_line g hb hr hrules hout hres hSr rfl ht hname hemit
    hmembers hpost (by simpa [structDecl, hparams] using hfrag)
  refine ⟨hfrag, hnull, m, hm, hmn, hms, a, c, ?_⟩
  simpa [structDecl, hparams] using hline

def namedField (name : String) (ty : Ty) : Field := ⟨[], some ⟨name, false⟩, ty⟩

def sharedWords : Ty :=
  Ty.use ⟨"Option", false⟩ [.path (.mk false [.mk ⟨"std", false⟩ .none, .mk ⟨"rc", false⟩ .none,
    .mk ⟨"Rc", false⟩ (.ofTypes [Ty.use ⟨"Vec", false⟩ [.ref (Ty.use ⟨"str", false⟩ [])]])])]

def wordsGenerics : Generics := { angled := true, typeParams := [⟨⟨"T", false⟩, []⟩] }

def wordsFields : List Field := [namedField "f" sharedWords, namedField "g" (Ty.use ⟨"T", false⟩ [])]

def wordsItems : List Item := [.struct [] ⟨"Holder", false⟩ wordsGenerics (.named wordsFields)]

def wordsDecl : Decl :=
  structDecl (Names.ofItems "crate" wordsItems) ⟨"crate", .topLevel⟩ [] ⟨"Holder", false⟩ wordsGenerics
    (.named wordsFields)

def wordsGenerator : Generator := (({} : Generator).registerDecl wordsDecl).addRoot wordsDecl.name

theorem wordsGenerator_field_line :
    ∃ out res, wordsGenerator.generate = .ok out ∧ wordsGenerator.resolve = .ok res ∧
      SourceFragment (Names.ofItems "crate" wordsItems) wordsGenerics.paramNames (res.types.map Target.simple)
        sharedWords ∧
      OptionalAtTop (Names.ofItems "crate" wordsItems) wordsGenerics.paramNames sharedWords ∧
      ∃ t ∈ res.types, t.name = "crate::Holder" ∧ ∃ m ∈ t.members.values, m.name = "f" ∧
        ∃ a c, out = a ++ "    f?: Array<string>;\n" ++ c := by
  have hb : wordsGenerator.registry.HasBuiltins :=
    (Registry.hasBuiltins_withBuiltins.register Registry.wellFormed_withBuiltins wordsDecl (by decide +kernel)).markRoot _
  have hr : wordsGenerator.registry.WellFormed := (Registry.wellFormed_withBuiltins.register wordsDecl).markRoot _
  have hSr : { wordsDecl with supertypes := wordsDecl.supertypes ++ [] } ∈ wordsGenerator.registry.decls := by
    rw [List.append_nil]
    show wordsDecl ∈ ((Registry.withBuiltins.register wordsDecl).markRoot wordsDecl.name).decls
    rw [Registry.markRoot_decls]
    exact Registry.mem_register_self wordsDecl
  obtain ⟨out, hout⟩ : ∃ out, wordsGenerator.generate = .ok out :=
    ⟨_, Except.toOption_eq_some.mp (by decide +kernel :
      wordsGenerator.generate.toOption = some
        "/* generated @ 0 */\ndeclare module \"NativeTypes\" \x7b\n  interface Holder<T> \x7b\n    f?: Array<string>;\n    g: T;\n  \x7d\n\x7d\n")⟩
  have hnames : wordsGenerator.resolve.toOption.map (fun res => res.types.map Target.name) =
      some ["crate::Holder"] := by decide +kernel
  obtain ⟨res, hres, hnames⟩ := Option.map_eq_some_iff.mp hnames
  obtain ⟨t, ht, hname⟩ : ∃ t ∈ res.types, t.name = "crate::Holder" :=
    List.mem_map.mp (hnames ▸ List.mem_singleton_self _)
  have hscope : res.types.map Target.simple = ["Holder"] := by
    rw [show Target.simple = Path.simple ∘ Target.name from rfl, ← List.map_map, hnames]
    decide +kernel
  -- `Option`, then the wrapper `Rc`, the sequence `Vec`, a reference and `str`
  have hτ : SourceFragment (Names.ofItems "crate" wordsItems) wordsGenerics.paramNames (res.types.map Target.simple)
      sharedWords :=
    .option (by decide +kernel) rfl (.wrapper (c := "std::rc::Rc") (by decide +kernel) (by decide) rfl
      (.sequence (c := Known.vec) (by decide +kernel) (by decide) rfl (.ref (.str (by decide +kernel)))))
  have hopt : OptionalAtTop (Names.ofItems "crate" wordsItems) wordsGenerics.paramNames sharedWords :=
    .option (by decide +kernel)
  obtain ⟨-, hnull, m, hm, hmn, hms, a, c, hline⟩ := extracted_field_line wordsGenerator hb hr rfl hout
    (Except.toOption_eq_some.mp hres) hSr ht hname rfl
    (show wordsFields = [] ++ namedField "f" sharedWords :: [namedField "g" (Ty.use ⟨"T", false⟩ [])] from rfl)
    (by decide) (by decide) rfl (by decide) hτ
  refine ⟨out, res, hout, Except.toOption_eq_some.mp hres, hτ, hopt, t, ht, hname, m, hm, hmn, a, c, ?_⟩
  have hjson : m.jsonName = "f" := by
    simp only [TargetMember.jsonName, hms, hmn]
    rfl
  -- the line itself is computed: the table writes the shared words as an array of strings
  rw [hline, hjson, hscope, hnull.mpr hopt]
  congr 2
  decide +kernel

def vecShadowItems : List Item :=
  [.struct [] ⟨"Vec", false⟩ {} (.named [namedField "v" (.path (.mk false [.mk ⟨"std", false⟩ .none,
    .mk ⟨"vec", false⟩ .none, .mk ⟨"Vec", false⟩ (.ofTypes [Ty.use ⟨"u8", false⟩ []])]))])]

theorem std_vec_written_as_generated :
    ((({} : Generator).readParsed "crate" vecShadowItems).addRoot "crate::Vec").generate =
      .ok "/* generated @ 0 */\ndeclare module \"NativeTypes\" \x7b\n  interface Vec \x7b\n    v: Vec<number>;\n  \x7d\n\x7d\n" :=
  Except.toOption_eq_some.mp (by decide +kernel)

def repeatedItems : List Item :=
  [.struct [] ⟨"Holder", false⟩ {} (.named [namedField "a" (Ty.use ⟨"u8", false⟩ []),
    namedField "b" (Ty.use ⟨"bool", false⟩ []), namedField "a" (Ty.use ⟨"String", false⟩ [])])]

theorem repeated_field_written_once :
    ((({} : Generator).readParsed "crate" repeatedItems).addRoot "crate::Holder").generate =
      .ok "/* generated @ 0 */\ndeclare module \"NativeTypes\" \x7b\n  interface Holder \x7b\n    a: string;\n    b: boolean;\n  \x7d\n\x7d\n" :=
  Except.toOption_eq_some.mp (by decide +kernel)

def boxedOptionItems : List Item :=
  [.struct [] ⟨"Holder", false⟩ {} (.named [namedField "f"
    (Ty.use ⟨"Box", false⟩ [Ty.use ⟨"Option", false⟩ [Ty.use ⟨"u8", false⟩ []]])])]

theorem boxed_option_optional :
    ((({} : Generator).readParsed "crate" boxedOptionItems).addRoot "crate::Holder").generate =
      .ok "/* generated @ 0 */\ndeclare module \"NativeTypes\" \x7b\n  interface Holder \x7b\n    f?: number;\n  \x7d\n\x7d\n" :=
  Except.toOption_eq_some.mp (by decide +kernel)

end TypeBridge
