import TypeBridge.Render.TypeText
import TypeBridge.Wrapped.Shape
import TypeBridge.Discovery.Target
/-!
# The text of a field type

`FieldText.text` reads the text of a field type straight off the type expression, and
`FieldText.InFragment` is the fragment it covers. An argument position reads the first argument
of its node with the same key, and a node named like a generated declaration is written by that
name. Rendering a wrapped and classified field type gives `FieldText.field` (`render_property`).
-/

namespace TypeBridge

namespace Keyed

variable {α β : Type}

@[simp] theorem get?_nil (key : String) : get? ([] : Keyed α) key = none := rfl

theorem get?_cons (k : String) (v : α) (m : Keyed α) (key : String) :
    get? ((k, v) :: m) key = if k = key then some v else get? m key := by
  by_cases h : k = key <;> simp [get?, h]

theorem get?_append (m n : Keyed α) (key : String) : get? (m ++ n) key = (get? m key).or (get? n key) := by
  induction m with
  | nil => simp
  | cons e m ih =>
    rw [List.cons_append, get?_cons, get?_cons, ih]
    split <;> simp

theorem get?_eq_none_of_contains {m : Keyed α} {key : String} (h : ¬m.contains key = true) :
    get? m key = none := by
  simp only [get?, Option.map_eq_none_iff, List.find?_eq_none, beq_iff_eq]
  intro e he hkey
  exact h (List.any_eq_true.mpr ⟨e, he, by simp [hkey]⟩)

theorem get?_isSome_of_contains {m : Keyed α} {key : String} (h : m.contains key = true) :
    (get? m key).isSome := by
  obtain ⟨e, he, hkey⟩ := List.any_eq_true.mp h
  simp only [get?, Option.isSome_map]
  exact List.find?_isSome.mpr ⟨e, he, hkey⟩

theorem get?_foldl_insertNew (xs acc : Keyed α) (key : String) :
    get? (xs.foldl (fun m e => m.insertNew e.1 e.2) acc) key = (get? acc key).or (get? xs key) := by
  induction xs generalizing acc with
  | nil => simp
  | cons x xs ih =>
    rw [List.foldl_cons, ih, get?_cons]
    by_cases hc : acc.contains x.1 = true
    · simp only [insertNew, hc, if_true]
      by_cases hk : x.1 = key
      · subst hk
        obtain ⟨v, hv⟩ := Option.isSome_iff_exists.mp (get?_isSome_of_contains hc)
        simp [hv]
      · simp [hk]
    · have hnone := get?_eq_none_of_contains hc
      have hins : acc.insertNew x.1 x.2 = acc ++ [x] := by simp [insertNew, hc]
      rw [hins, get?_append, get?_cons, get?_nil, Option.or_assoc]
      by_cases hk : x.1 = key
      · subst hk
        simp [hnone]
      · simp [hk]

theorem get?_ofListFirst (xs : Keyed α) (key : String) : get? (ofListFirst xs) key = get? xs key := by
  rw [ofListFirst, get?_foldl_insertNew, get?_nil, Option.none_or]

theorem ofListFirst_eq_nil {xs : Keyed α} : ofListFirst xs = [] ↔ xs = [] := by
  constructor
  · intro h
    cases xs with
    | nil => rfl
    | cons x xs =>
      have hx := get?_ofListFirst (x :: xs) x.1
      rw [h, get?_cons] at hx
      simp [get?] at hx
  · rintro rfl
    rfl

theorem get?_map (f : α → β) (m : Keyed α) (key : String) :
    get? (m.map fun e => (e.1, f e.2)) key = (get? m key).map f := by
  induction m with
  | nil => rfl
  | cons e m ih =>
    rw [List.map_cons, get?_cons, get?_cons, ih]
    split <;> rfl

end Keyed

namespace FieldText

def sequences : List String :=
  [Known.vec, "std::collections::VecDeque", "std::collections::LinkedList",
    "std::collections::BinaryHeap", Known.array]

def sets : List String := [Known.hashSet, "std::collections::BTreeSet", "indexmap::IndexSet"]

def maps : List String := [Known.hashMap, Known.btreeMap, "indexmap::IndexMap"]

def scalars : List (String × String) :=
  Known.numerics.map (fun e => (e, "number")) ++
    [(Known.bool, "boolean"), (Known.char, "string"), (Known.string, "string"), (Known.unit, "null")] ++
    Known.numerics.map (fun e => ("[" ++ e ++ "]", "Array<number>")) ++ [("[char]", "Array<string>")]

def scalar? (n : String) : Option String := scalars.lookup n

def keyKind? : TypeRef → Option String
  | .named n [] _ => if n = Known.string then some "string" else if Known.isNumeric n then some "number" else none
  | _ => none

variable (scope : List String)

mutual
/-- The text of a type expression, `scope` holding the simple names of the generated
declarations. Each argument position reads the text of the first argument with its key. -/
def text : TypeRef → String
  | .named n args _ =>
    let read (a : TypeRef) : String := ((texts args).lookup a.key).getD ""
    if scope.contains (Path.simple n) then
      if args.isEmpty then Path.simple n
      else Path.simple n ++ "<" ++ ", ".intercalate (args.map read) ++ ">"
    else match args with
      | [] => (scalar? n).getD TypeText.unknown
      | [e] =>
        if sequences.contains n then "Array<" ++ read e ++ ">"
        else if sets.contains n then "Set<" ++ read e ++ ">"
        else TypeText.unknown
      | [k, v] =>
        if maps.contains n then
          match keyKind? k with
          | some kind => TypeText.indexSignature kind (read v)
          | none => "Map<" ++ read k ++ ", " ++ read v ++ ">"
        else if n = Known.pair then "[" ++ read k ++ ", " ++ read v ++ "]"
        else TypeText.unknown
      | _ => TypeText.unknown
  | .var v _ _ => v
  | _ => TypeText.unknown
def texts : List TypeRef → List (String × String)
  | [] => []
  | a :: as => (a.key, text a) :: texts as
end

/-- The text of a field's type, `params` holding the declaration's own type parameters: a
type named like one of them is written by that name, unless a generated declaration has it. -/
def field (params : List String) (τ : TypeRef) : String :=
  match τ.display? with
  | some n => if !scope.contains n && params.contains n then n else text scope τ
  | none => text scope τ

/-- The type expressions the table covers: scalars, sequences, sets and maps of them, pairs,
the declaration's own type parameters, and generated declarations applied to them. -/
inductive InFragment (params : List String) : TypeRef → Prop
  | scalar {n : String} {b : Bool} : (scalar? n).isSome → InFragment params (.named n [] b)
  | sequence {n : String} {e : TypeRef} {b : Bool} : n ∈ sequences → InFragment params e →
      InFragment params (.named n [e] b)
  | set {n : String} {e : TypeRef} {b : Bool} : n ∈ sets → InFragment params e →
      InFragment params (.named n [e] b)
  | map {n : String} {k v : TypeRef} {b : Bool} : n ∈ maps → InFragment params k →
      InFragment params v → InFragment params (.named n [k, v] b)
  | pair {a c : TypeRef} {b : Bool} : InFragment params a → InFragment params c →
      InFragment params (.named Known.pair [a, c] b)
  | param {v : String} {b : Bool} : v ∈ params → InFragment params (.var v [] b)
  | generated {n : String} {args : List TypeRef} {b : Bool} : Path.simple n ∈ scope →
      (∀ a ∈ args, InFragment params a) → InFragment params (.named n args b)

theorem lookup_texts (args : List TypeRef) (key : String) :
    (texts scope args).lookup key = (args.find? (·.key == key)).map (text scope) := by
  induction args with
  | nil => rfl
  | cons a args ih =>
    by_cases h : a.key = key
    · simp [texts, h]
    · have h' : (key == a.key) = false := beq_eq_false_iff_ne.mpr (Ne.symm h)
      simp [texts, List.lookup_cons, h, h', ih]

end FieldText

/-! ### Wrapping and classifying a field type -/

namespace Wrapped

variable (r : Registry)

@[simp] theorem build_ty (site : Option TypeRef) (use : UseSite) (anns : List String) (τ : TypeRef) :
    (build site use anns τ).ty = τ := by
  cases τ <;> rfl

theorem buildArgs_self (args : List TypeRef) :
    buildArgs args args = args.map fun a => (a.key, build (some a) .typeVariable [] a) := by
  induction args with
  | nil => rfl
  | cons a args ih => simp [buildArgs, ih]

theorem classifyAll_eq (ps : List (String × Wrapped)) :
    classifyAll r ps = ps.map fun e => (e.1, e.2.classify r) := by
  induction ps with
  | nil => rfl
  | cons e ps ih =>
    obtain ⟨k, w⟩ := e
    simp [classifyAll, ih]

theorem classify_eq (w : Wrapped) :
    w.classify r =
      classifyNode r { w with parameters := classifyAll r w.parameters, bounds := classifyAll r w.bounds } := by
  cases w
  rfl

section Node

variable (w : Wrapped)

@[simp] theorem classifyNode_ty : (classifyNode r w).ty = w.ty := by
  unfold classifyNode; split <;> rfl
@[simp] theorem classifyNode_parameters : (classifyNode r w).parameters = w.parameters := by
  unfold classifyNode; split <;> rfl
@[simp] theorem classifyNode_returnsVar : (classifyNode r w).returnsVar = w.returnsVar := by
  unfold classifyNode; split <;> rfl

theorem classifyNode_collection (h : w.shape = none) :
    (classifyNode r w).collection = if w.isPrimitive then .other else w.shapeIn r := by
  unfold classifyNode
  by_cases hp : w.isPrimitive = true
  · simp [isClassified, collection, h, hp]
  · simp [isClassified, collection, h, hp]

end Node

end Wrapped

theorem TypeText.render_eq (ctx : TypeText.Context) (w : Wrapped) :
    TypeText.render ctx w = TypeText.node ctx w (TypeText.renderAll ctx w.parameters) := by
  cases w
  rfl

theorem TypeText.renderAll_eq (ctx : TypeText.Context) (ps : List (String × Wrapped)) :
    TypeText.renderAll ctx ps = ps.map fun e => (e.1, TypeText.render ctx e.2) := by
  induction ps with
  | nil => rfl
  | cons e ps ih =>
    obtain ⟨k, w⟩ := e
    simp [TypeText.renderAll, ih]

/-! ### The built-in collections -/

namespace Registry

def HasBuiltins (r : Registry) : Prop := ∀ d ∈ builtins, r.lookup? d.name = some d

end Registry

namespace FieldText

variable (r : Registry)

def shapeOf (n : String) : CollectionShape :=
  match CollectionShape.ofName? n with
  | some k => k
  | none =>
    match r.lookup? n with
    | none => .other
    | some d => if d.kind == .array then .array else (CollectionShape.ofSupertypes? d).getD .other

def wrapped (use : UseSite) (anns : List String) (τ : TypeRef) : Wrapped :=
  (Wrapped.build (some τ) use anns τ).classify r

variable {r} {use : UseSite} {anns : List String}

@[simp] theorem wrapped_ty (τ : TypeRef) : (wrapped r use anns τ).ty = τ := by
  rw [wrapped, Wrapped.classify_eq, Wrapped.classifyNode_ty]
  cases τ <;> rfl

@[simp] theorem wrapped_returnsVar (τ : TypeRef) : (wrapped r use anns τ).returnsVar = false := by
  rw [wrapped, Wrapped.classify_eq, Wrapped.classifyNode_returnsVar]
  cases τ <;> rfl

theorem wrapped_parameters (n : String) (args : List TypeRef) (b : Bool) :
    (wrapped r use anns (.named n args b)).parameters =
      Wrapped.classifyAll r (Keyed.ofListFirst (Wrapped.buildArgs args args)) := by
  rw [wrapped, Wrapped.classify_eq, Wrapped.classifyNode_parameters]
  rfl

theorem wrapped_collection (n : String) (args : List TypeRef) (b : Bool) :
    (wrapped r use anns (.named n args b)).collection =
      if Known.isPrimitive n then .other else shapeOf r n := by
  -- the node names its path, and its mirror is the declaration of that path
  have hm : (Wrapped.build (some (.named n args b)) use anns (.named n args b)).mirror? r = r.lookup? n := by
    cases h : r.lookup? n <;>
      simp [Wrapped.mirror?, Wrapped.build, Wrapped.canonical?, TypeRef.canonical?, TypeRef.original?, h]
  have hshape : (Wrapped.build (some (.named n args b)) use anns (.named n args b)).shapeIn r = shapeOf r n := by
    unfold Wrapped.shapeIn shapeOf
    rw [hm]
    rfl
  unfold wrapped
  rw [Wrapped.classify_eq, Wrapped.classifyNode_collection _ _ rfl, ← hshape]
  rfl

theorem get?_wrapped_parameters (n : String) (args : List TypeRef) (b : Bool) (key : String) :
    Keyed.get? (wrapped r use anns (.named n args b)).parameters key =
      (args.find? (·.key == key)).map (wrapped r .typeVariable []) := by
  rw [wrapped_parameters, Wrapped.classifyAll_eq, Keyed.get?_map, Keyed.get?_ofListFirst,
    Wrapped.buildArgs_self]
  induction args with
  | nil => rfl
  | cons a args ih =>
    rw [List.map_cons, Keyed.get?_cons, List.find?_cons]
    by_cases h : a.key = key
    · simp [h, wrapped]
    · have h' : (a.key == key) = false := beq_eq_false_iff_ne.mpr h
      simp [h, h', ih]

theorem wrapped_parameters_eq_nil (n : String) (args : List TypeRef) (b : Bool) :
    (wrapped r use anns (.named n args b)).parameters = [] ↔ args = [] := by
  rw [wrapped_parameters, Wrapped.classifyAll_eq, List.map_eq_nil_iff, Keyed.ofListFirst_eq_nil,
    Wrapped.buildArgs_self, List.map_eq_nil_iff]

theorem wrapped_parameters_isEmpty (n : String) (args : List TypeRef) (b : Bool) :
    (wrapped r use anns (.named n args b)).parameters.isEmpty = args.isEmpty := by
  rw [Bool.eq_iff_iff, List.isEmpty_iff, List.isEmpty_iff, wrapped_parameters_eq_nil]

@[simp] theorem wrapped_display? (τ : TypeRef) : (wrapped r use anns τ).display? = τ.display? := by
  simp [Wrapped.display?]

theorem ofSupertypes?_family (path marker : String) (ps : List String) :
    CollectionShape.ofSupertypes? (Registry.family path marker ps) = CollectionShape.ofMarker? marker := by
  simp [CollectionShape.ofSupertypes?, Registry.family, TypeRef.canonical?]

theorem shapeOf_family (hb : r.HasBuiltins) (path marker : String) (ps : List String)
    (hmem : Registry.family path marker ps ∈ Registry.builtins) (hname : CollectionShape.ofName? path = none) :
    shapeOf r path = (CollectionShape.ofMarker? marker).getD .other := by
  have hl : r.lookup? path = some (Registry.family path marker ps) := hb _ hmem
  have hk : ((Registry.family path marker ps).kind == .array) = false := rfl
  simp only [shapeOf, hname, hl, hk, ofSupertypes?_family, Bool.false_eq_true, if_false]

theorem shapeOf_sequence (hb : r.HasBuiltins) {n : String} (hn : n ∈ sequences) :
    shapeOf r n = .iterable ∨ shapeOf r n = .array := by
  simp only [sequences, List.mem_cons, List.not_mem_nil, or_false] at hn
  rcases hn with rfl | rfl | rfl | rfl | rfl
  · have h : CollectionShape.ofName? Known.vec = some .iterable := by decide
    exact .inl (by simp [shapeOf, h])
  · exact .inl ((shapeOf_family hb _ Known.collectionFamily ["T"] (by simp [Registry.builtins]) (by decide)).trans
      (by decide))
  · exact .inl ((shapeOf_family hb _ Known.collectionFamily ["T"] (by simp [Registry.builtins]) (by decide)).trans
      (by decide))
  · exact .inl ((shapeOf_family hb _ Known.collectionFamily ["T"] (by simp [Registry.builtins]) (by decide)).trans
      (by decide))
  · have hl : r.lookup? Known.array =
        some { name := Known.array, kind := .array, typeParams := [{ name := "T" }] } :=
      hb { name := Known.array, kind := .array, typeParams := [{ name := "T" }] } (by simp [Registry.builtins])
    have h : CollectionShape.ofName? Known.array = none := by decide
    have hk : (DeclKind.array == DeclKind.array) = true := rfl
    exact .inr (by simp only [shapeOf, hl, h, hk, ↓reduceIte])

theorem shapeOf_set (hb : r.HasBuiltins) {n : String} (hn : n ∈ sets) : shapeOf r n = .set := by
  simp only [sets, List.mem_cons, List.not_mem_nil, or_false] at hn
  rcases hn with rfl | rfl | rfl
  · have h : CollectionShape.ofName? Known.hashSet = some .set := by decide
    simp [shapeOf, h]
  · exact (shapeOf_family hb "std::collections::BTreeSet" Known.setFamily ["T"] (by simp [Registry.builtins])
      (by decide)).trans (by decide)
  · exact (shapeOf_family hb "indexmap::IndexSet" Known.setFamily ["T"] (by simp [Registry.builtins])
      (by decide)).trans (by decide)

theorem shapeOf_map (hb : r.HasBuiltins) {n : String} (hn : n ∈ maps) : shapeOf r n = .map := by
  simp only [maps, List.mem_cons, List.not_mem_nil, or_false] at hn
  rcases hn with rfl | rfl | rfl
  · have h : CollectionShape.ofName? Known.hashMap = some .map := by decide
    simp [shapeOf, h]
  · have h : CollectionShape.ofName? Known.btreeMap = some .map := by decide
    simp [shapeOf, h]
  · exact (shapeOf_family hb "indexmap::IndexMap" Known.mapFamily ["K", "V"] (by simp [Registry.builtins])
      (by decide)).trans (by decide)

theorem shapeOf_pair : shapeOf r Known.pair = .pair := by
  have h : CollectionShape.ofName? Known.pair = some .pair := by decide
  simp [shapeOf, h]

/-! ### Rendering the fragment -/

section Render

variable {ctx : TypeText.Context}

theorem get?_renderAll_wrapped {n : String} {args : List TypeRef} {b : Bool}
    (ih : ∀ a ∈ args, TypeText.render ctx (wrapped r .typeVariable [] a) = text ctx.scope a) (key : String) :
    Keyed.get? (TypeText.renderAll ctx (wrapped r use anns (.named n args b)).parameters) key =
      (texts ctx.scope args).lookup key := by
  rw [TypeText.renderAll_eq, Keyed.get?_map, get?_wrapped_parameters, lookup_texts, Option.map_map]
  cases h : args.find? (·.key == key) with
  | none => rfl
  | some a => simp [ih a (List.mem_of_find?_eq_some h)]

theorem filterMap_lookup_texts (scope : List String) (args : List TypeRef) :
    args.filterMap (fun a => (texts scope args).lookup a.key) =
      args.map fun a => ((texts scope args).lookup a.key).getD "" := by
  have hsome : ∀ a ∈ args, (texts scope args).lookup a.key = some (((texts scope args).lookup a.key).getD "") := by
    intro a ha
    rw [lookup_texts]
    obtain ⟨a', ha'⟩ := Option.isSome_iff_exists.mp (List.find?_isSome.mpr ⟨a, ha, by simp⟩ :
      (args.find? (·.key == a.key)).isSome)
    simp [ha']
  suffices h : ∀ l : List TypeRef, (∀ a ∈ l, a ∈ args) →
      l.filterMap (fun a => (texts scope args).lookup a.key) = l.map fun a => ((texts scope args).lookup a.key).getD "" from
    h args fun _ ha => ha
  intro l hl
  induction l with
  | nil => rfl
  | cons a l ih =>
    rw [List.filterMap_cons, hsome a (hl a List.mem_cons_self), List.map_cons,
      ih fun x hx => hl x (List.mem_cons_of_mem a hx)]

theorem render_of_scope {n : String} {args : List TypeRef} {b : Bool} (hrules : ctx.rules = [])
    (ih : ∀ a ∈ args, TypeText.render ctx (wrapped r .typeVariable [] a) = text ctx.scope a)
    (hs : ctx.scope.contains (Path.simple n) = true) :
    TypeText.render ctx (wrapped r use anns (.named n args b)) = text ctx.scope (.named n args b) := by
  rw [TypeText.render_eq]
  simp only [TypeText.node, hrules, Rule.firstMatch?, List.find?_nil, wrapped_ty, wrapped_display?,
    TypeRef.display?, TypeRef.isWildcard, TypeRef.args, hs, if_true, Bool.false_eq_true, if_false]
  simp only [get?_renderAll_wrapped ih, text, hs, if_true, filterMap_lookup_texts,
    wrapped_parameters_isEmpty]

end Render

theorem scalars_rendered : ∀ p ∈ scalars, TypeText.scalar? p.1 = some p.2 := by decide

theorem TypeText.scalar?_of_scalar? {n t : String} (h : scalar? n = some t) : TypeText.scalar? n = some t := by
  obtain ⟨l₁, l₂, hl, -⟩ := List.lookup_eq_some_iff.mp h
  exact scalars_rendered (n, t) (hl ▸ List.mem_append_right _ List.mem_cons_self)

section Cases

variable {ctx : TypeText.Context}

theorem render_scalar (hrules : ctx.rules = []) {n t : String} {b : Bool} (ht : scalar? n = some t)
    (hs : ctx.scope.contains (Path.simple n) = false) :
    TypeText.render ctx (wrapped r use anns (.named n [] b)) = text ctx.scope (.named n [] b) := by
  rw [TypeText.render_eq]
  simp only [TypeText.node, hrules, Rule.firstMatch?, List.find?_nil, wrapped_ty, wrapped_display?,
    wrapped_returnsVar, TypeRef.display?, TypeRef.isWildcard, TypeRef.isVar, hs,
    wrapped_parameters_isEmpty, List.isEmpty_nil, Wrapped.canonical?, TypeRef.canonical?,
    Option.bind_some, TypeText.scalar?_of_scalar? ht, text, ht, Bool.false_eq_true, Bool.false_and,
    ↓reduceIte, Option.getD_some]

theorem isPrimitive_collection :
    ∀ n ∈ sequences ++ sets ++ maps ++ [Known.pair], Known.isPrimitive n = false := by decide

theorem render_sequence (hb : r.HasBuiltins) (hrules : ctx.rules = []) {n : String} {e : TypeRef} {b : Bool}
    (hn : n ∈ sequences) (ih : TypeText.render ctx (wrapped r .typeVariable [] e) = text ctx.scope e)
    (hs : ctx.scope.contains (Path.simple n) = false) :
    TypeText.render ctx (wrapped r use anns (.named n [e] b)) = text ctx.scope (.named n [e] b) := by
  have hprim := isPrimitive_collection n (by simp [hn])
  have ih' : ∀ a ∈ [e], TypeText.render ctx (wrapped r .typeVariable [] a) = text ctx.scope a := by simpa using ih
  rw [TypeText.render_eq]
  simp only [TypeText.node, hrules, Rule.firstMatch?, List.find?_nil, wrapped_ty, wrapped_display?,
    wrapped_returnsVar, TypeRef.display?, TypeRef.isWildcard, TypeRef.isVar, hs,
    wrapped_parameters_isEmpty, Bool.false_eq_true, Bool.false_and, ↓reduceIte, wrapped_collection, hprim,
    get?_renderAll_wrapped ih', text, List.isEmpty_cons]
  rcases shapeOf_sequence hb hn with h | h <;> simp [h, hn, TypeRef.args, texts]

theorem sets_not_sequences : ∀ n ∈ sets, n ∉ sequences := by decide

theorem render_set (hb : r.HasBuiltins) (hrules : ctx.rules = []) {n : String} {e : TypeRef} {b : Bool}
    (hn : n ∈ sets) (ih : TypeText.render ctx (wrapped r .typeVariable [] e) = text ctx.scope e)
    (hs : ctx.scope.contains (Path.simple n) = false) :
    TypeText.render ctx (wrapped r use anns (.named n [e] b)) = text ctx.scope (.named n [e] b) := by
  have hprim := isPrimitive_collection n (by simp [hn])
  have hseq : n ∉ sequences := sets_not_sequences n hn
  have ih' : ∀ a ∈ [e], TypeText.render ctx (wrapped r .typeVariable [] a) = text ctx.scope a := by simpa using ih
  rw [TypeText.render_eq]
  simp only [TypeText.node, hrules, Rule.firstMatch?, List.find?_nil, wrapped_ty, wrapped_display?,
    wrapped_returnsVar, TypeRef.display?, TypeRef.isWildcard, TypeRef.isVar, hs,
    wrapped_parameters_isEmpty, Bool.false_eq_true, Bool.false_and, ↓reduceIte, wrapped_collection, hprim,
    get?_renderAll_wrapped ih', text, List.isEmpty_cons, shapeOf_set hb hn]
  simp [hn, hseq, texts, TypeRef.args]

theorem keyName_wrapped (k : TypeRef) :
    (if (wrapped r .typeVariable [] k).parameters.isEmpty then (wrapped r .typeVariable [] k).canonical?
      else none) = match k with
      | .named kn [] _ => some kn
      | _ => none := by
  cases k with
  | named kn args b =>
    rw [wrapped_parameters_isEmpty]
    cases args <;> simp [Wrapped.canonical?, TypeRef.canonical?]
  | var v bs b => simp [Wrapped.canonical?, TypeRef.canonical?]
  | wildcard b => simp [Wrapped.canonical?, TypeRef.canonical?]
  | verbatim t b => simp [Wrapped.canonical?, TypeRef.canonical?]

theorem render_map (hb : r.HasBuiltins) (hrules : ctx.rules = []) {n : String} {k v : TypeRef} {b : Bool}
    (hn : n ∈ maps) (ihk : TypeText.render ctx (wrapped r .typeVariable [] k) = text ctx.scope k)
    (ihv : TypeText.render ctx (wrapped r .typeVariable [] v) = text ctx.scope v)
    (hs : ctx.scope.contains (Path.simple n) = false) :
    TypeText.render ctx (wrapped r use anns (.named n [k, v] b)) = text ctx.scope (.named n [k, v] b) := by
  have hprim := isPrimitive_collection n (by simp [hn])
  have ih : ∀ a ∈ [k, v], TypeText.render ctx (wrapped r .typeVariable [] a) = text ctx.scope a := by
    simp [ihk, ihv]
  have hkey : Keyed.get? (wrapped r use anns (.named n [k, v] b)).parameters k.key =
      some (wrapped r .typeVariable [] k) := by
    simp [get?_wrapped_parameters]
  rw [TypeText.render_eq]
  simp only [TypeText.node, hrules, Rule.firstMatch?, List.find?_nil, wrapped_ty, wrapped_display?,
    wrapped_returnsVar, TypeRef.display?, TypeRef.isWildcard, TypeRef.isVar, hs,
    wrapped_parameters_isEmpty, Bool.false_eq_true, Bool.false_and, ↓reduceIte, wrapped_collection, hprim,
    get?_renderAll_wrapped ih, text, List.isEmpty_cons, List.getElem?_cons_zero, Option.bind_some,
    shapeOf_map hb hn, TypeRef.args,
    hkey, keyName_wrapped]
  have hk : (texts ctx.scope [k, v]).lookup k.key = some (text ctx.scope k) := by simp [texts]
  obtain ⟨tv, hv⟩ : ∃ tv, (texts ctx.scope [k, v]).lookup v.key = some tv :=
    Option.isSome_iff_exists.mp (by simp [lookup_texts])
  have hmc : maps.contains n = true := by simp [hn]
  simp only [List.getElem?_cons_succ, List.getElem?_cons_zero, Option.bind_some, hk, hv, hmc, if_true,
    Option.getD_some]
  -- the index signature's key kind is decided by the key alone
  cases k with
  | named kn args nb =>
    cases args with
    | nil =>
      by_cases hstr : kn = Known.string
      · simp [keyKind?, hstr]
      · by_cases hnum : Known.isNumeric kn = true <;> simp [keyKind?, hstr, hnum]
    | cons a as => simp [keyKind?]
  | var => simp [keyKind?]
  | wildcard => simp [keyKind?]
  | verbatim => simp [keyKind?]

theorem render_pair (hrules : ctx.rules = []) {a c : TypeRef} {b : Bool}
    (iha : TypeText.render ctx (wrapped r .typeVariable [] a) = text ctx.scope a)
    (ihc : TypeText.render ctx (wrapped r .typeVariable [] c) = text ctx.scope c)
    (hs : ctx.scope.contains (Path.simple Known.pair) = false) :
    TypeText.render ctx (wrapped r use anns (.named Known.pair [a, c] b)) =
      text ctx.scope (.named Known.pair [a, c] b) := by
  have hprim := isPrimitive_collection Known.pair (by simp)
  have ih : ∀ x ∈ [a, c], TypeText.render ctx (wrapped r .typeVariable [] x) = text ctx.scope x := by
    simp [iha, ihc]
  rw [TypeText.render_eq]
  simp only [TypeText.node, hrules, Rule.firstMatch?, List.find?_nil, wrapped_ty, wrapped_display?,
    wrapped_returnsVar, TypeRef.display?, TypeRef.isWildcard, TypeRef.isVar, hs,
    wrapped_parameters_isEmpty, Bool.false_eq_true, Bool.false_and, ↓reduceIte, wrapped_collection, hprim,
    get?_renderAll_wrapped ih, text, List.isEmpty_cons, shapeOf_pair, TypeRef.args]
  have hfirst : (texts ctx.scope [a, c]).lookup a.key = some (text ctx.scope a) := by simp [texts]
  obtain ⟨tc, hc⟩ : ∃ tc, (texts ctx.scope [a, c]).lookup c.key = some tc :=
    Option.isSome_iff_exists.mp (by simp [lookup_texts])
  have hnm : Known.pair ∉ maps := by decide
  simp [hfirst, hc, hnm]

theorem render_param (hrules : ctx.rules = []) {v : String} {b : Bool} (hv : v ∈ ctx.vars) :
    TypeText.render ctx (wrapped r use anns (.var v [] b)) = text ctx.scope (.var v [] b) := by
  have hp : (wrapped r use anns (.var v [] b)).parameters = [] := by
    rw [wrapped, Wrapped.classify_eq, Wrapped.classifyNode_parameters]
    rfl
  rw [TypeText.render_eq]
  simp [TypeText.node, hrules, Rule.firstMatch?, hp, hv, TypeRef.display?, TypeRef.isWildcard, TypeRef.isVar,
    text]

end Cases

section Fragment

variable {ctx : TypeText.Context}

theorem render_named {n : String} {args : List TypeRef} {b : Bool} (hrules : ctx.rules = [])
    (ih : ∀ a ∈ args, TypeText.render ctx (wrapped r .typeVariable [] a) = text ctx.scope a)
    (hout : ctx.scope.contains (Path.simple n) = false →
      TypeText.render ctx (wrapped r use anns (.named n args b)) = text ctx.scope (.named n args b)) :
    TypeText.render ctx (wrapped r use anns (.named n args b)) = text ctx.scope (.named n args b) := by
  cases hs : ctx.scope.contains (Path.simple n)
  · exact hout hs
  · exact render_of_scope hrules ih hs

theorem render_wrapped (hb : r.HasBuiltins) (hrules : ctx.rules = []) {params : List String}
    (hvars : ∀ v ∈ params, v ∈ ctx.vars) {τ : TypeRef} (h : InFragment ctx.scope params τ) :
    TypeText.render ctx (wrapped r use anns τ) = text ctx.scope τ := by
  induction h generalizing use anns with
  | scalar ht =>
    obtain ⟨t, ht⟩ := Option.isSome_iff_exists.mp ht
    exact render_named hrules (by simp) (render_scalar hrules ht)
  | sequence hn _ ih =>
    exact render_named hrules (by simpa using ih) (render_sequence hb hrules hn ih)
  | set hn _ ih =>
    exact render_named hrules (by simpa using ih) (render_set hb hrules hn ih)
  | map hn _ _ ihk ihv =>
    exact render_named hrules (by simp [ihk, ihv]) (render_map hb hrules hn ihk ihv)
  | pair _ _ iha ihc =>
    exact render_named hrules (by simp [iha, ihc]) (render_pair hrules iha ihc)
  | param hv => exact render_param hrules (hvars _ hv)
  | generated hs _ ih => exact render_of_scope hrules (fun a ha => ih a ha) (List.contains_iff_mem.mpr hs)

end Fragment

/-! ### A field's type at the top level -/

theorem classify_returnsVar (w : Wrapped) (x : Bool) :
    ({ w with returnsVar := x } : Wrapped).classify r = { w.classify r with returnsVar := x } := by
  rw [Wrapped.classify_eq, Wrapped.classify_eq]
  by_cases h : (w.isClassified || w.isPrimitive) = true <;>
    simp_all [Wrapped.classifyNode, Wrapped.isClassified, Wrapped.isPrimitive, Wrapped.canonical?,
      Wrapped.shapeIn, Wrapped.mirror?]

theorem hasTypeParam_eq (S : Decl) (n : String) : S.hasTypeParam n = (S.typeParams.map (·.name)).contains n := by
  rw [Bool.eq_iff_iff]
  simp [Decl.hasTypeParam]

theorem propertyType_classify (S : Decl) (f : Member) :
    (Target.propertyType S f).classify r =
      if (f.ty.display?.map S.hasTypeParam).getD false then
        { wrapped r .property f.annotations f.ty with returnsVar := true }
      else wrapped r .property f.annotations f.ty := by
  by_cases hc : (f.ty.display?.map S.hasTypeParam).getD false = true
  · have hc' : ((Wrapped.property f.ty f.annotations).display?.map S.hasTypeParam).getD false = true := by
      simpa [Wrapped.display?, Wrapped.property] using hc
    simp only [Target.propertyType, hc', hc, if_true]
    rw [classify_returnsVar]
    rfl
  · have hc' : ¬((Wrapped.property f.ty f.annotations).display?.map S.hasTypeParam).getD false = true := by
      simpa [Wrapped.display?, Wrapped.property] using hc
    simp only [Target.propertyType, hc', hc]
    rfl

theorem node_returnsVar {ctx : TypeText.Context} (hrules : ctx.rules = []) {w : Wrapped} {n : String}
    (hw : w.ty.isWildcard = false) (hd : w.ty.display? = some n) (texts : Keyed String) :
    TypeText.node ctx { w with returnsVar := true } texts =
      if ctx.scope.contains n then TypeText.node ctx w texts else n := by
  by_cases hs : n ∈ ctx.scope <;>
    simp [TypeText.node, hrules, Rule.firstMatch?, hw, hd, hs, Wrapped.display?]

theorem InFragment.isWildcard {scope params : List String} {τ : TypeRef} (h : InFragment scope params τ) :
    τ.isWildcard = false := by
  cases h <;> rfl

/-- The type of a field of the fragment is written as the table says, a type named like one of
the declaration's parameters by that name. -/
theorem render_property {ctx : TypeText.Context} (hb : r.HasBuiltins) (hrules : ctx.rules = []) (S : Decl)
    (f : Member) (hvars : ∀ v ∈ S.typeParams.map (·.name), v ∈ ctx.vars)
    (h : InFragment ctx.scope (S.typeParams.map (·.name)) f.ty) :
    TypeText.render ctx ((Target.propertyType S f).classify r) = field ctx.scope (S.typeParams.map (·.name)) f.ty := by
  have hbody : TypeText.render ctx (wrapped r .property f.annotations f.ty) = text ctx.scope f.ty :=
    render_wrapped hb hrules hvars h
  rw [propertyType_classify, field]
  cases hd : f.ty.display? with
  | none => simpa using hbody
  | some n =>
    dsimp only
    rw [Option.map_some, Option.getD_some, hasTypeParam_eq]
    by_cases hp : (S.typeParams.map (·.name)).contains n = true
    · -- the field returns a type variable: written by its name unless a generated declaration has it
      have hw : (wrapped r .property f.annotations f.ty).ty.isWildcard = false := by
        rw [wrapped_ty]
        exact h.isWildcard
      rw [if_pos hp, TypeText.render_eq]
      rw [TypeText.render_eq] at hbody
      rw [node_returnsVar hrules hw (by rw [wrapped_ty]; exact hd), hbody, hp, Bool.and_true]
      cases ctx.scope.contains n <;> rfl
    · have hf : (S.typeParams.map (·.name)).contains n = false := Bool.eq_false_iff.mpr hp
      rw [if_neg hp, hf, Bool.and_false]
      exact hbody

end FieldText

end TypeBridge
