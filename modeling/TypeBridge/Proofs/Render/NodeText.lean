import TypeBridge.Proofs.Render.FieldLine
import TypeBridge.Inspect
/-!
# The text of a type, node by node

`TypeText.direct` reads the text of a wrapped type off the type expression, trying at each node
the rules of `TypeText.render` in their order. Each argument position is written as the first
argument of its node with the same key; the plain positional reading differs as soon as a node
has two arguments with one key (`pairOfVecs_second_reads_first`).
-/

namespace TypeBridge

namespace TypeRef

theorem induction_args {P : TypeRef → Prop} (h : ∀ t, (∀ a ∈ t.args, P a) → P t) (t : TypeRef) :
    P t := by
  refine @TypeRef.rec P (fun l => ∀ a ∈ l, P a) (fun _ _ _ ih => h _ ih)
    (fun _ _ _ _ => h _ (by simp [args])) (fun _ => h _ (by simp [args])) (fun _ _ => h _ (by simp [args]))
    (by simp) ?_ t
  intro a l ha hl
  exact List.forall_mem_cons.mpr ⟨ha, hl⟩

mutual
def distinctKeys : TypeRef → Bool
  | .named _ args _ => decide ((args.map key).Nodup) && distinctKeysAll args
  | _ => true
def distinctKeysAll : List TypeRef → Bool
  | [] => true
  | a :: as => a.distinctKeys && distinctKeysAll as
end

theorem distinctKeysAll_iff (l : List TypeRef) : distinctKeysAll l = true ↔ ∀ a ∈ l, a.distinctKeys = true := by
  induction l with
  | nil => simp [distinctKeysAll]
  | cons a l ih => simp [distinctKeysAll, ih]

theorem find?_key_of_nodup {args : List TypeRef} (h : (args.map key).Nodup) {a : TypeRef} (ha : a ∈ args) :
    args.find? (·.key == a.key) = some a := by
  induction args with
  | nil => simp at ha
  | cons x xs ih =>
    rw [List.map_cons, List.nodup_cons] at h
    rw [List.find?_cons]
    by_cases hx : x.key = a.key
    · -- an argument after `x` with the key of `x` would repeat it
      have hax : a = x := by
        rcases List.mem_cons.mp ha with rfl | ha'
        · rfl
        · exact absurd (hx ▸ List.mem_map_of_mem ha') h.1
      simp [hx, hax]
    · have ha' : a ∈ xs := (List.mem_cons.mp ha).resolve_left (fun e => hx (e ▸ rfl))
      have hx' : (x.key == a.key) = false := beq_eq_false_iff_ne.mpr hx
      simp [hx', ih h.2 ha']

end TypeRef

def Rule.appliesAt (rule : Rule) (anns : List String) (t : TypeRef) : Bool :=
  match rule.target with
  | .path c => t.canonical? == some c
  | .tagged tag => anns.contains tag

namespace TypeText

def nodeShape (r : Registry) (t : TypeRef) : CollectionShape :=
  if (t.canonical?.map Known.isPrimitive).getD false then .other
  else match t.canonical?.bind CollectionShape.ofName? with
    | some k => k
    | none =>
      match t.original?.bind r.lookup? with
      | none => .other
      | some d => if d.kind == .array then .array else (CollectionShape.ofSupertypes? d).getD .other

def collectionText : CollectionShape → Option TypeRef → List String → Option String
  | .map, key, kt :: vt :: _ =>
    match key.bind FieldText.keyKind? with
    | some kind => some (indexSignature kind vt)
    | none => some ("Map<" ++ kt ++ ", " ++ vt ++ ">")
  | .map, _, _ => some "Map<any, any>"
  | .iterable, _, [] | .array, _, [] => some "Array<any>"
  | .iterable, _, [e] | .array, _, [e] => some ("Array<" ++ e ++ ">")
  | .iterable, _, _ | .array, _, _ => none
  | .pair, _, a :: c :: _ => some ("[" ++ a ++ ", " ++ c ++ "]")
  | .pair, _, _ => some "[any, any]"
  | .set, _, e :: _ => some ("Set<" ++ e ++ ">")
  | .set, _, [] => some "Set<any>"
  | .other, _, _ => none

variable (rules : List Rule) (r : Registry) (scope vars : List String)

def nodeText (anns : List String) (rtv : Bool) (t : TypeRef) (argTexts : List String) : String :=
  let withArgs (name : String) : String :=
    if t.args.isEmpty then name else name ++ "<" ++ ", ".intercalate argTexts ++ ">"
  let builtIn : String :=
    match (if t.args.isEmpty then t.canonical?.bind scalar? else none) with
    | some text => text
    | none => (collectionText (nodeShape r t) t.args.head? argTexts).getD unknown
  match rules.find? (·.appliesAt anns t) with
  | some rule => rule.text
  | none =>
    if t.isWildcard then "any"
    else match t.display? with
      | some name =>
        if scope.contains name then withArgs name
        else if rtv then name
        else if t.isVar && vars.contains name then withArgs name
        else builtIn
      | none => builtIn

mutual
/-- The text of a type expression read node by node. Nested nodes carry no annotations and never
return a type parameter; an argument position is written as the first argument of its node with
the same key. -/
def direct (anns : List String) (rtv : Bool) : TypeRef → String
  | .named n args b =>
    nodeText rules r scope vars anns rtv (.named n args b)
      (args.map fun a => ((directArgs args).lookup a.key).getD unknown)
  | t => nodeText rules r scope vars anns rtv t []
def directArgs : List TypeRef → List (String × String)
  | [] => []
  | a :: as => (a.key, direct [] false a) :: directArgs as
end

mutual
def positional (anns : List String) (rtv : Bool) : TypeRef → String
  | .named n args b => nodeText rules r scope vars anns rtv (.named n args b) (positionalArgs args)
  | t => nodeText rules r scope vars anns rtv t []
def positionalArgs : List TypeRef → List String
  | [] => []
  | a :: as => positional [] false a :: positionalArgs as
end

theorem direct_eq (anns : List String) (rtv : Bool) (t : TypeRef) :
    direct rules r scope vars anns rtv t =
      nodeText rules r scope vars anns rtv t
        (t.args.map fun a => ((directArgs rules r scope vars t.args).lookup a.key).getD unknown) := by
  cases t <;> simp [direct, TypeRef.args]

theorem positional_eq (anns : List String) (rtv : Bool) (t : TypeRef) :
    positional rules r scope vars anns rtv t =
      nodeText rules r scope vars anns rtv t (t.args.map (positional rules r scope vars [] false)) := by
  have hargs : ∀ l, positionalArgs rules r scope vars l = l.map (positional rules r scope vars [] false) := by
    intro l
    induction l with
    | nil => rfl
    | cons a l ih => simp [positionalArgs, ih]
  cases t <;> simp [positional, TypeRef.args, hargs]

theorem lookup_directArgs (args : List TypeRef) (key : String) :
    (directArgs rules r scope vars args).lookup key =
      (args.find? (·.key == key)).map (direct rules r scope vars [] false) := by
  induction args with
  | nil => rfl
  | cons a args ih =>
    by_cases h : a.key = key
    · simp [directArgs, h]
    · have h' : (key == a.key) = false := beq_eq_false_iff_ne.mpr (Ne.symm h)
      simp [directArgs, List.lookup_cons, h, h', ih]

theorem direct_eq_positional {t : TypeRef} (h : t.distinctKeys = true) (anns : List String) (rtv : Bool) :
    direct rules r scope vars anns rtv t = positional rules r scope vars anns rtv t := by
  induction t using TypeRef.induction_args generalizing anns rtv with
  | h t ih =>
    rw [direct_eq, positional_eq]
    congr 1
    -- only a named node has arguments, and its keys are distinct
    cases t with
    | named n args b =>
      simp only [TypeRef.distinctKeys, Bool.and_eq_true, decide_eq_true_eq, TypeRef.distinctKeysAll_iff] at h
      simp only [TypeRef.args] at ih ⊢
      refine List.map_congr_left fun a ha => ?_
      rw [lookup_directArgs, TypeRef.find?_key_of_nodup h.1 ha, Option.map_some, Option.getD_some]
      exact ih a ha (h.2 a ha) [] false
    | var | wildcard | verbatim => rfl

end TypeText

/-! ### The wrapper of a type expression -/

namespace Wrapped

@[simp] theorem build_shape (site : Option TypeRef) (use : UseSite) (anns : List String) (τ : TypeRef) :
    (build site use anns τ).shape = none := by
  cases τ <;> rfl

variable (w : Wrapped) (b : Bool)

@[simp] theorem collection_withReturnsVar : ({ w with returnsVar := b } : Wrapped).collection = w.collection := rfl
@[simp] theorem canonical?_withReturnsVar : ({ w with returnsVar := b } : Wrapped).canonical? = w.canonical? := rfl
@[simp] theorem display?_withReturnsVar : ({ w with returnsVar := b } : Wrapped).display? = w.display? := rfl

theorem withReturnsVar_of_eq {w : Wrapped} {b : Bool} (h : w.returnsVar = b) :
    ({ w with returnsVar := b } : Wrapped) = w := by
  cases w
  cases h
  rfl

end Wrapped

namespace FieldText

variable {r : Registry} {use : UseSite} {anns : List String}

@[simp] theorem Wrapped.classifyNode_annotations (w : Wrapped) :
    (Wrapped.classifyNode r w).annotations = w.annotations := by
  unfold Wrapped.classifyNode; split <;> rfl

@[simp] theorem wrapped_canonical? (τ : TypeRef) : (wrapped r use anns τ).canonical? = τ.canonical? := by
  simp [Wrapped.canonical?]

@[simp] theorem wrapped_annotations (τ : TypeRef) : (wrapped r use anns τ).annotations = anns := by
  rw [wrapped, Wrapped.classify_eq, Wrapped.classifyNode_annotations]
  cases τ <;> rfl

theorem wrapped_parameters_of_args_nil {τ : TypeRef} (h : τ.args = []) :
    (wrapped r use anns τ).parameters = [] := by
  rw [wrapped, Wrapped.classify_eq, Wrapped.classifyNode_parameters]
  cases τ with
  | named n args b =>
    cases h
    rfl
  | var | wildcard | verbatim => rfl

theorem wrapped_parameters_isEmpty_args (τ : TypeRef) :
    (wrapped r use anns τ).parameters.isEmpty = τ.args.isEmpty := by
  cases τ with
  | named n args b => exact wrapped_parameters_isEmpty n args b
  | var | wildcard | verbatim => rw [wrapped_parameters_of_args_nil rfl]; rfl

theorem get?_wrapped_parameters_args (τ : TypeRef) (key : String) :
    Keyed.get? (wrapped r use anns τ).parameters key =
      (τ.args.find? (·.key == key)).map (wrapped r .typeVariable []) := by
  cases τ with
  | named n args b => exact get?_wrapped_parameters n args b key
  | var | wildcard | verbatim => rw [wrapped_parameters_of_args_nil rfl]; rfl

theorem wrapped_collection_nodeShape (τ : TypeRef) :
    (wrapped r use anns τ).collection = TypeText.nodeShape r τ := by
  cases hc : τ.canonical? with
  | some n =>
    obtain ⟨args, b, rfl⟩ : ∃ args b, τ = .named n args b := by
      cases τ <;> simp_all [TypeRef.canonical?]
    rw [wrapped_collection]
    rfl
  | none =>
    -- a node without a path is classified through the declaration of its site alone
    have hm : (Wrapped.build (some τ) use anns τ).mirror? r = τ.original?.bind r.lookup? := by
      cases τ <;> simp_all [Wrapped.mirror?, Wrapped.build, Wrapped.canonical?, TypeRef.canonical?]
    have hshape : (Wrapped.build (some τ) use anns τ).shapeIn r = TypeText.nodeShape r τ := by
      unfold Wrapped.shapeIn TypeText.nodeShape
      rw [hm]
      cases τ.original?.bind r.lookup? <;>
        simp only [Wrapped.canonical?, Wrapped.build_ty, hc, Option.bind_none, Option.map_none, Option.getD_none,
          Bool.false_eq_true, ↓reduceIte]
    have hp : (Wrapped.build (some τ) use anns τ).isPrimitive = false := by
      simp [Wrapped.isPrimitive, Wrapped.canonical?, hc]
    unfold wrapped
    rw [Wrapped.classify_eq, Wrapped.classifyNode_collection, ← hshape]
    · show (if (Wrapped.build (some τ) use anns τ).isPrimitive then _ else _) = _
      rw [hp]
      rfl
    · exact Wrapped.build_shape _ _ _ _

end FieldText

/-! ### One node -/

namespace TypeText

open FieldText

variable {ctx : Context} {r : Registry} {use : UseSite} {anns : List String}

theorem firstMatch?_wrapped (rv : Bool) (τ : TypeRef) :
    Rule.firstMatch? ctx.rules { wrapped r use anns τ with returnsVar := rv } =
      ctx.rules.find? (·.appliesAt anns τ) := by
  unfold Rule.firstMatch?
  congr 1
  funext rule
  cases h : rule.target <;> simp [Rule.applies, Rule.appliesAt, h, Wrapped.canonical?]

-- The renderer's matches and those of `nodeText` are compiled apart, or shared where both are
-- elaborated together; what `simp` leaves of a case then needs `rfl` to unfold them, or nothing.
set_option linter.unnecessarySeqFocus false in
set_option linter.unusedTactic false in
set_option linter.unreachableTactic false in
theorem node_wrapped (rv : Bool) (τ : TypeRef) (texts : Keyed String)
    (hall : ∀ a ∈ τ.args, (Keyed.get? texts a.key).isSome) :
    node ctx { wrapped r use anns τ with returnsVar := rv } texts =
      nodeText ctx.rules r ctx.scope ctx.vars anns rv τ
        (τ.args.map fun a => (Keyed.get? texts a.key).getD unknown) := by
  have hread : ∀ a ∈ τ.args, Keyed.get? texts a.key = some ((Keyed.get? texts a.key).getD unknown) :=
    fun a ha => by
      obtain ⟨v, hv⟩ := Option.isSome_iff_exists.mp (hall a ha)
      rw [hv]
      rfl
  have hfm : τ.args.filterMap (fun a => Keyed.get? texts a.key) =
      τ.args.map fun a => (Keyed.get? texts a.key).getD unknown :=
    List.filterMap_eq_map_iff_forall_eq_some.mpr hread
  -- a map reads the kind of its key off the wrapper of its first argument
  have hfirst : ∀ a rest, τ.args = a :: rest →
      Keyed.get? (wrapped r use anns τ).parameters a.key = some (wrapped r .typeVariable [] a) := by
    intro a rest h
    rw [get?_wrapped_parameters_args, h]
    simp
  unfold node nodeText
  -- read the wrapper's node off the type expression
  simp only [firstMatch?_wrapped, Wrapped.collection_withReturnsVar, Wrapped.canonical?_withReturnsVar,
    Wrapped.display?_withReturnsVar]
  simp only [wrapped_ty, wrapped_display?, wrapped_canonical?, wrapped_parameters_isEmpty_args, hfm,
    wrapped_collection_nodeShape]
  -- a collection reads its first two positions: split on how many arguments the node has
  cases hargs : τ.args with
  | nil => cases nodeShape r τ <;> simp [collectionText] <;> rfl
  | cons a rest =>
    obtain ⟨va, hva⟩ := Option.isSome_iff_exists.mp (hall a (by simp [hargs]))
    simp only [List.getElem?_cons_zero, Option.bind_some, hfirst a rest hargs, keyName_wrapped]
    cases rest with
    | nil => cases nodeShape r τ <;> simp [collectionText, hva] <;> rfl
    | cons c rest =>
      obtain ⟨vc, hvc⟩ := Option.isSome_iff_exists.mp (hall c (by simp [hargs]))
      cases nodeShape r τ
      case map =>
        -- the kind of a map's key is read off its first argument
        rcases a with ⟨kn, _ | ⟨_, _⟩, _⟩ | _ | _ | _
        · by_cases hs : kn = Known.string
          · subst hs
            simp [collectionText, keyKind?, hva, hvc] <;> rfl
          · by_cases hn : Known.isNumeric kn = true <;>
              simp [collectionText, keyKind?, hva, hvc, hs, hn] <;> rfl
        all_goals simp [collectionText, keyKind?, hva, hvc] <;> rfl
      all_goals simp [collectionText, hva, hvc] <;> rfl

theorem get?_renderAll_wrapped_direct (τ : TypeRef)
    (ih : ∀ a ∈ τ.args,
      render ctx (wrapped r .typeVariable [] a) = direct ctx.rules r ctx.scope ctx.vars [] false a)
    (key : String) :
    Keyed.get? (renderAll ctx (wrapped r use anns τ).parameters) key =
      (directArgs ctx.rules r ctx.scope ctx.vars τ.args).lookup key := by
  rw [renderAll_eq, Keyed.get?_map, get?_wrapped_parameters_args, Option.map_map, lookup_directArgs]
  cases h : τ.args.find? (·.key == key) with
  | none => rfl
  | some a => simp [ih a (List.mem_of_find?_eq_some h)]

theorem lookup_directArgs_isSome {args : List TypeRef} {a : TypeRef} (ha : a ∈ args) :
    ((directArgs ctx.rules r ctx.scope ctx.vars args).lookup a.key).isSome := by
  rw [lookup_directArgs, Option.isSome_map]
  exact List.find?_isSome.mpr ⟨a, ha, by simp⟩

theorem render_wrapped_direct (τ : TypeRef) :
    ∀ (use : UseSite) (anns : List String) (rv : Bool),
      render ctx { wrapped r use anns τ with returnsVar := rv } =
        direct ctx.rules r ctx.scope ctx.vars anns rv τ := by
  induction τ using TypeRef.induction_args with
  | h τ ih =>
    intro use anns rv
    have ih' : ∀ a ∈ τ.args,
        render ctx (wrapped r .typeVariable [] a) = direct ctx.rules r ctx.scope ctx.vars [] false a := by
      intro a ha
      rw [← ih a ha .typeVariable [] false, Wrapped.withReturnsVar_of_eq (wrapped_returnsVar a)]
    have htexts : ∀ key, Keyed.get? (renderAll ctx (wrapped r use anns τ).parameters) key =
        (directArgs ctx.rules r ctx.scope ctx.vars τ.args).lookup key :=
      get?_renderAll_wrapped_direct τ ih'
    rw [render_eq, direct_eq]
    rw [node_wrapped rv τ _ fun a ha => by rw [htexts]; exact lookup_directArgs_isSome ha]
    simp only [htexts]

theorem direct_congr_vars (rules : List Rule) (r : Registry) (scope : List String) {vars vars' : List String}
    (h : ∀ n, n ∈ vars ↔ n ∈ vars') (t : TypeRef) :
    ∀ (anns : List String) (rtv : Bool),
      direct rules r scope vars anns rtv t = direct rules r scope vars' anns rtv t := by
  induction t using TypeRef.induction_args with
  | h t ih =>
    intro anns rtv
    have hargs : ∀ a ∈ t.args, ((directArgs rules r scope vars t.args).lookup a.key).getD unknown =
        ((directArgs rules r scope vars' t.args).lookup a.key).getD unknown := by
      intro a _
      rw [lookup_directArgs, lookup_directArgs]
      cases hf : t.args.find? (·.key == a.key) with
      | none => rfl
      | some b => simp [ih b (List.mem_of_find?_eq_some hf)]
    rw [direct_eq, direct_eq, List.map_congr_left hargs]
    simp [nodeText, h]

end TypeText

/-! ### The text of a queried type -/

namespace TypeQuery

def ofProperty (t : TypeRef) (A : List String) (rtv : Bool) (O : Registry) (R : List Rule) (S : List String)
    (V : List TypeRef) : TypeQuery :=
  { ty := t, annotations := A, returnsVar := rtv, registry := O, rules := R, scope := S, vars := V }

theorem mem_varKeys (V : List TypeRef) (n : String) :
    n ∈ (V.foldl (fun m v => Keyed.insertNew m (v.display?.getD "") (Wrapped.typeVariable v)) []).keys ↔
      n ∈ V.map fun v => v.display?.getD "" := by
  rw [Keyed.mem_keys_foldl_insertNew (fun v => v.display?.getD "") Wrapped.typeVariable]
  simp

/-- The text of a field type, marked or not as returning a type parameter, is its text read node
by node: at each node the first matching custom rule (a tag rule only at the top), a wildcard,
a name in scope with its arguments, a field returning a type parameter, a type variable with its
arguments, a scalar, the collection shape of the node, else the unknown-type text; each argument
position is written as the first argument of its node with the same key. Where no node has two
arguments with one key, this is the text that writes each position from its own argument. -/
theorem transform_text (t : TypeRef) (A : List String) (rtv : Bool) (O : Registry) (R : List Rule)
    (S : List String) (V : List TypeRef) :
    (ofProperty t A rtv O R S V).run.text = TypeText.direct R O S (V.map fun v => v.display?.getD "") A rtv t ∧
      (t.distinctKeys = true →
        (ofProperty t A rtv O R S V).run.text =
          TypeText.positional R O S (V.map fun v => v.display?.getD "") A rtv t) := by
  -- the query renders the classified field type, marked after classification
  have hw : (ofProperty t A rtv O R S V).wrap.classify O = { FieldText.wrapped O .property A t with returnsVar := rtv } := by
    cases rtv
    · exact (Wrapped.withReturnsVar_of_eq (FieldText.wrapped_returnsVar t)).symm
    · exact FieldText.classify_returnsVar _ true
  have hrun : (ofProperty t A rtv O R S V).run.text =
      TypeText.render
        ⟨R, S, (V.foldl (fun m v => Keyed.insertNew m (v.display?.getD "") (Wrapped.typeVariable v)) []).keys⟩
        ((ofProperty t A rtv O R S V).wrap.classify O) := rfl
  have hvars := TypeText.direct_congr_vars R O S (mem_varKeys V) t A rtv
  rw [hrun, hw, TypeText.render_wrapped_direct t .property A rtv]
  exact ⟨hvars, fun hk => hvars.trans (TypeText.direct_eq_positional _ _ _ _ hk A rtv)⟩

end TypeQuery

def stringMapOfBytes : TypeRef :=
  .named Known.hashMap [.simpleRef Known.string, .named Known.vec [.simpleRef "u8"] false] false

theorem stringMapOfBytes_text_positional :
    stringMapOfBytes.distinctKeys = true ∧
      (TypeQuery.ofProperty stringMapOfBytes [] false Registry.withBuiltins [] [] []).run.text =
        TypeText.positional [] Registry.withBuiltins [] [] [] false stringMapOfBytes :=
  ⟨by decide +kernel, (TypeQuery.transform_text stringMapOfBytes [] false Registry.withBuiltins [] [] []).2
    (by decide +kernel)⟩

def pairOfVecs : TypeRef :=
  .named Known.pair [.named Known.vec [.simpleRef "u8"] false, .named Known.vec [.simpleRef Known.string] false] false

/-- The second position of `pairOfVecs` is written as the first argument, which has its key, and
not from its own argument as the positional reading does. -/
theorem pairOfVecs_second_reads_first :
    (TypeQuery.ofProperty pairOfVecs [] false Registry.withBuiltins [] [] []).run.text =
        "[Array<number>, Array<number>]" ∧
      TypeText.positional [] Registry.withBuiltins [] [] [] false pairOfVecs = "[Array<number>, Array<string>]" := by
  decide +kernel

end TypeBridge
