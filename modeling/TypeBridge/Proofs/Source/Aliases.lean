import TypeBridge.Proofs.Source.Substitution
/-!
# Aliases expand by substitution

A use `A<X₁, …, Xₙ>` of `type A<P₁, …, Pₙ> = B;` lowers as the written substitution
`B[P₁ := X₁, …]`, up to `normArrays`, when no name of `B` is captured, aliases in alias bodies get
all their parameters, and `B` passes no array to an inline-array vector (`lowerType_alias_use`).
Each condition is needed (`holder_alias_keeps_struct`, `bare_alias_leaks_variable`,
`small_alias_keeps_array`).
-/

namespace TypeBridge

/-! ### Lowering a path -/

namespace Source

open Rust

def appliesAlias (names : Names) (qs : List String) (p : SynPath) : Bool :=
  match p.single? with
  | some q =>
    qs.contains q ||
      match names.aliases.get? q with
      | some c => decide (c.params.length ≤ p.typeArgs.length)
      | none => true
  | none => true

/-- Every alias used in the body of an alias gives the used alias all its parameters. -/
def Names.AliasesApplied (names : Names) : Prop :=
  ∀ e ∈ names.aliases, ∀ p ∈ e.2.ty.paths, appliesAlias names e.2.params p = true

instance (names : Names) : Decidable names.AliasesApplied := by
  unfold Names.AliasesApplied
  infer_instance

/-- Whether a path of one segment names a type parameter in `ps`, or none in `ps'`: where `ps` are
the parameters of an alias and `ps'` those of the scope it is used in, the name keeps its meaning. -/
def keepsMeaning (ps ps' : List String) (p : SynPath) : Bool :=
  match p.single? with
  | some q => ps.contains q || !ps'.contains q
  | none => true

/-- A path that passes no parameter `τ` gives an array directly to an inline-array vector, which
takes the element of an array argument written in place but not of one put for a variable. -/
def PassesNoArray (names : Names) (τ : List (String × Ty)) (p : SynPath) : Prop :=
  inlineArrayVecs.contains (names.resolvePath p) = true → NoArrayParam τ p.typeArgs

instance (names : Names) (τ : List (String × Ty)) (p : SynPath) : Decidable (PassesNoArray names τ p) :=
  inferInstanceAs (Decidable (_ → _))

def canonicalType (canonical : String) (args : List (TypeRef × Option TypeRef)) : TypeRef :=
  let plain := args.map (·.1)
  if canonical == optionPath then
    match plain.head? with
    | some inner => inner.withNullable true
    | none => .wildcard true
  else if canonical == "str" then TypeRef.simpleRef Known.string
  else if transparentWrappers.contains canonical then plain.head?.getD (.wildcard false)
  else if inlineArrayVecs.contains canonical then .named canonical (args.map fun (t, elem) => elem.getD t) false
  else .named canonical plain false

namespace Lowering

variable (L : Lowering)

theorem named_of_param {p : SynPath} {q : String} (hp : p.single? = some q) (hq : q ∈ L.params)
    (args : List (TypeRef × Option TypeRef)) : L.named p args = .var q [] false := by
  obtain ⟨g, segs⟩ := p
  obtain ⟨i, a, rfl, rfl⟩ := SynPath.single?_eq_some hp
  simp [named, SynPath.segments, Segment.ident, Option.filter, hq]

theorem named_of_alias {p : SynPath} {q : String} {a : Alias} (hp : p.single? = some q) (hq : q ∉ L.params)
    (ha : L.names.aliases.get? q = some a) (args : List (TypeRef × Option TypeRef)) :
    L.named p args = L.expand a (args.map (·.1)) := by
  obtain ⟨g, segs⟩ := p
  obtain ⟨i, a, rfl, rfl⟩ := SynPath.single?_eq_some hp
  simp [named, SynPath.segments, Segment.ident, Option.filter, hq, ha]

-- `canonicalType`'s match and the one in `named` are compiled apart, or shared where both are
-- elaborated together; what `simp` leaves then needs `rfl` to unfold them, or nothing.
set_option linter.unnecessarySeqFocus false in
theorem named_of_resolved {p : SynPath}
    (hp : ∀ q, p.single? = some q → q ∉ L.params ∧ L.names.aliases.get? q = none)
    (args : List (TypeRef × Option TypeRef)) :
    L.named p args = canonicalType (L.names.resolvePath p) args := by
  obtain ⟨g, segs⟩ := p
  rcases segs with _ | ⟨s, _ | ⟨s', rest⟩⟩
  · rfl
  · obtain ⟨hq, ha⟩ := hp s.ident.text rfl
    have hc : L.params.contains s.ident.text = false := by simpa using hq
    simp only [named, SynPath.segments, Option.filter_some, hc, Option.bind_some, ha] <;> rfl
  · rfl

theorem ty_path (g : Bool) (segs : List Segment) :
    L.ty (.path (.mk g segs)) = L.named (.mk g segs) (L.lastArgs segs) := rfl

theorem genericArgs_length : ∀ as : List GenericArg, (L.genericArgs as).length = (GenericArg.types as).length
  | [] => rfl
  | .type t :: as => by simp [genericArgs, GenericArg.types, genericArgs_length as]
  | .other :: as => by simp [genericArgs, GenericArg.types, genericArgs_length as]

theorem lastArgs_length : ∀ segs : List Segment, (L.lastArgs segs).length = (Segment.lastTypes segs).length
  | [] => rfl
  | [.mk _ (.angle as)] => L.genericArgs_length as
  | [.mk _ .none] => rfl
  | [.mk _ (.paren _ _)] => rfl
  | _ :: s :: segs => by
    simp only [lastArgs, Segment.lastTypes]
    exact lastArgs_length (s :: segs)

theorem genericArgs_map_type :
    ∀ xs : List Ty, L.genericArgs (xs.map .type) = xs.map fun x => (L.ty x, L.arrayElem x)
  | [] => rfl
  | x :: xs => by rw [List.map_cons, genericArgs, genericArgs_map_type xs, List.map_cons]

theorem lastArgs_ofTypes (i : Ident) (xs : List Ty) :
    L.lastArgs [.mk i (.ofTypes xs)] = xs.map fun x => (L.ty x, L.arrayElem x) := by
  cases xs with
  | nil => rfl
  | cons x xs => exact L.genericArgs_map_type (x :: xs)

end Lowering

def ArgVarsWithin (qs : List String) (x : TypeRef × Option TypeRef) : Prop :=
  x.1.varsWithin qs = true ∧ ∀ e ∈ x.2, e.varsWithin qs = true

theorem varsWithin_canonicalType (qs : List String) (c : String) (args : List (TypeRef × Option TypeRef))
    (h : ∀ x ∈ args, ArgVarsWithin qs x) :
    (canonicalType c args).varsWithin qs = true := by
  unfold canonicalType
  split_ifs
  · cases args with
    | nil => rfl
    | cons x rest => simpa [TypeRef.varsWithin_withNullable] using (h x List.mem_cons_self).1
  · rfl
  · cases args with
    | nil => rfl
    | cons x rest => exact (h x List.mem_cons_self).1
  · simp only [TypeRef.varsWithin, TypeRef.varsWithinAll_iff, List.mem_map]
    rintro _ ⟨x, hx, rfl⟩
    obtain ⟨h₁, h₂⟩ := h x hx
    cases he : x.2 with
    | none => simpa [he] using h₁
    | some e => simpa [he] using h₂ e he
  · simp only [TypeRef.varsWithin, TypeRef.varsWithinAll_iff, List.mem_map]
    rintro _ ⟨x, hx, rfl⟩
    exact (h x hx).1

def SubstEq (σ : List (String × TypeRef)) (x y : TypeRef) : Prop :=
  x.normArrays = (y.substitute σ).normArrays

def ArgSubstEq (σ : List (String × TypeRef)) (arr : Bool) (x y : TypeRef × Option TypeRef) : Prop :=
  SubstEq σ x.1 y.1 ∧ (arr = true → Option.Rel (SubstEq σ) x.2 y.2)

theorem map_eq_map_of_forall₂ {α β γ : Type} {f : α → γ} {g : β → γ} {l₁ : List α} {l₂ : List β}
    (h : List.Forall₂ (fun a b => f a = g b) l₁ l₂) : l₁.map f = l₂.map g := by
  rw [← List.forall₂_eq_eq_eq, List.forall₂_map_left_iff, List.forall₂_map_right_iff]
  exact h

theorem substEq_named {σ : List (String × TypeRef)} (n : String) {as bs : List TypeRef} (b : Bool)
    (h : List.Forall₂ (SubstEq σ) as bs) : SubstEq σ (.named n as b) (.named n bs b) := by
  simp only [SubstEq, TypeRef.substitute, TypeRef.normArrays, TypeRef.normArraysAll_eq_map,
    TypeRef.substituteAll_eq_map, List.map_map]
  congr 1
  exact map_eq_map_of_forall₂ h

theorem ArgSubstEq.fst {σ : List (String × TypeRef)} {arr : Bool} {argsL argsR : List (TypeRef × Option TypeRef)}
    (h : List.Forall₂ (ArgSubstEq σ arr) argsL argsR) :
    List.Forall₂ (SubstEq σ) (argsL.map (·.1)) (argsR.map (·.1)) :=
  List.forall₂_map_left_iff.mpr (List.forall₂_map_right_iff.mpr (h.imp fun _ _ hxy => hxy.1))

theorem canonicalType_substEq {σ : List (String × TypeRef)} (c : String) {argsL argsR : List (TypeRef × Option TypeRef)}
    (h : List.Forall₂ (ArgSubstEq σ (inlineArrayVecs.contains c)) argsL argsR) :
    SubstEq σ (canonicalType c argsL) (canonicalType c argsR) := by
  unfold canonicalType
  split_ifs with _ _ _ hvec
  · cases h with
    | nil => rfl
    | cons hx _ =>
      simp only [SubstEq, List.map_cons, List.head?_cons, TypeRef.substitute_withNullable_true,
        TypeRef.normArrays_withNullable]
      rw [hx.1]
  · rfl
  · cases h with
    | nil => rfl
    | cons hx _ => exact hx.1
  · -- an inline-array vector takes the element of an array argument
    refine substEq_named c false (List.forall₂_map_left_iff.mpr (List.forall₂_map_right_iff.mpr (h.imp ?_)))
    rintro ⟨x, ex⟩ ⟨y, ey⟩ ⟨hxy, hexy⟩
    cases hexy hvec with
    | none => exact hxy
    | some he => exact he
  · exact substEq_named c false (ArgSubstEq.fst h)

/-! ### The variables of a lowered type -/

theorem varsWithin_arrayOf (qs : List String) (z : TypeRef) : (arrayOf z).varsWithin qs = z.varsWithin qs := by
  unfold arrayOf
  split
  · split <;> rfl
  · simp [TypeRef.varsWithin, TypeRef.varsWithinAll]

namespace Lowering

def ExpandKeepsVars (L : Lowering) : Prop :=
  ∀ q c args, L.names.aliases.get? q = some c → (∀ x ∈ args, x.varsWithin L.params = true) →
    c.params.length ≤ args.length → (L.expand c args).varsWithin L.params = true

section Vars

variable (L : Lowering)

theorem varsWithin_arrayElem {qs : List String} (t : Ty) (h : (L.ty t).varsWithin qs = true) :
    ∀ e ∈ L.arrayElem t, e.varsWithin qs = true := by
  cases t
  case array e =>
    intro x hx
    obtain rfl : x = L.ty e := by simpa [arrayElem] using hx.symm
    rwa [ty, varsWithin_arrayOf] at h
  all_goals simp [arrayElem]

theorem varsWithin_named (hE : L.ExpandKeepsVars) {p : SynPath} {args : List (TypeRef × Option TypeRef)}
    (hp : appliesAlias L.names L.params p = true) (hlen : args.length = p.typeArgs.length)
    (hargs : ∀ x ∈ args, ArgVarsWithin L.params x) : (L.named p args).varsWithin L.params = true := by
  cases hs : p.single? with
  | none =>
    rw [L.named_of_resolved (by simp [hs]) args]
    exact varsWithin_canonicalType _ _ _ hargs
  | some q =>
    by_cases hq : q ∈ L.params
    · rw [L.named_of_param hs hq]
      simpa [TypeRef.varsWithin] using hq
    cases ha : L.names.aliases.get? q with
    | some c =>
      rw [L.named_of_alias hs hq ha]
      have hc : c.params.length ≤ p.typeArgs.length := by
        simpa [appliesAlias, hs, hq, ha] using hp
      refine hE q c _ ha ?_ (by simpa [hlen] using hc)
      simp only [List.mem_map]
      rintro _ ⟨x, hx, rfl⟩
      exact (hargs x hx).1
    | none =>
      rw [L.named_of_resolved (fun q' hq' => by cases hs.symm.trans hq'; exact ⟨hq, ha⟩) args]
      exact varsWithin_canonicalType _ _ _ hargs

mutual
theorem varsWithin_ty (hE : L.ExpandKeepsVars) : ∀ t : Ty, (∀ p ∈ t.paths, appliesAlias L.names L.params p = true) →
    (L.ty t).varsWithin L.params = true
  | .path (.mk g segs), h => by
    rw [ty_path]
    exact L.varsWithin_named hE (h _ List.mem_cons_self) (L.lastArgs_length segs)
      (varsWithin_lastArgs hE segs fun p hp => h p (List.mem_cons_of_mem _ hp))
  | .ref e, h | .paren e, h | .ptr e, h => varsWithin_ty hE e h
  | .array e, h | .slice e, h => by
    rw [ty, varsWithin_arrayOf]
    exact varsWithin_ty hE e h
  | .tuple [a, b], h => by
    simp only [Ty.paths, Ty.pathsAll, List.append_nil, List.mem_append] at h
    simp only [ty, TypeRef.varsWithin, TypeRef.varsWithinAll, Bool.and_true, Bool.and_eq_true]
    exact ⟨varsWithin_ty hE a fun p hp => h p (.inl hp), varsWithin_ty hE b fun p hp => h p (.inr hp)⟩
  | .tuple [], _ | .tuple [_], _ | .tuple (_ :: _ :: _ :: _), _ => rfl
  | .qualified, _ | .traitObject _ _, _ | .implTrait _, _ | .infer, _ | .bareFn _, _
  | .macroCall _, _ | .never, _ | .verbatim _, _ => rfl

theorem varsWithin_lastArgs (hE : L.ExpandKeepsVars) : ∀ segs : List Segment,
    (∀ p ∈ Segment.lastPaths segs, appliesAlias L.names L.params p = true) →
    ∀ x ∈ L.lastArgs segs, ArgVarsWithin L.params x
  | [], _ => by simp [lastArgs]
  | [.mk _ (.angle as)], h => varsWithin_genericArgs hE as h
  | [.mk _ .none], _ | [.mk _ (.paren _ _)], _ => by simp [lastArgs, segmentArgs]
  | _ :: s :: segs, h => by
    simp only [lastArgs]
    exact varsWithin_lastArgs hE (s :: segs) (by simpa [Segment.lastPaths] using h)

theorem varsWithin_genericArgs (hE : L.ExpandKeepsVars) : ∀ as : List GenericArg,
    (∀ p ∈ GenericArg.pathsAll as, appliesAlias L.names L.params p = true) →
    ∀ x ∈ L.genericArgs as, ArgVarsWithin L.params x
  | [], _ => by simp [genericArgs]
  | .type t :: as, h => by
    simp only [GenericArg.pathsAll, List.mem_append] at h
    have ht := varsWithin_ty hE t fun p hp => h p (.inl hp)
    simp only [genericArgs, List.mem_cons, forall_eq_or_imp]
    exact ⟨⟨ht, L.varsWithin_arrayElem t ht⟩, varsWithin_genericArgs hE as fun p hp => h p (.inr hp)⟩
  | .other :: as, h => by
    simp only [genericArgs]
    exact varsWithin_genericArgs hE as h
end

end Vars

@[simp] theorem withBudget_names (names : Names) (n : Nat) (ps : List String) :
    (withBudget names n ps).names = names := by
  cases n <;> rfl

@[simp] theorem withBudget_params (names : Names) (n : Nat) (ps : List String) :
    (withBudget names n ps).params = ps := by
  cases n <;> rfl

theorem expand_withBudget_succ (names : Names) (n : Nat) (ps : List String) (c : Alias) (args : List TypeRef) :
    (withBudget names (n + 1) ps).expand c args =
      ((withBudget names n c.params).ty c.ty).substitute (Keyed.ofListLast (c.params.zip args)) := rfl

theorem varsWithin_alias_body {names : Names} (hA : names.AliasesApplied) {n : Nat} {q : String} {c : Alias}
    (hc : names.aliases.get? q = some c) (hE : (withBudget names n c.params).ExpandKeepsVars) :
    ((withBudget names n c.params).ty c.ty).varsWithin c.params = true := by
  simpa using varsWithin_ty _ hE c.ty fun p hp => by simpa using hA _ (Keyed.mem_of_get? hc) p hp

/-- With every alias used in an alias body given all its parameters, every budget's expansion keeps
variables in scope. The induction is on the budget: an expansion substitutes the arguments for
the parameters in the body lowered one level down, whose variables are those parameters. -/
theorem expandKeepsVars_withBudget {names : Names} (hA : names.AliasesApplied) :
    ∀ n ps, (withBudget names n ps).ExpandKeepsVars
  | 0, _ => fun _ _ _ _ _ _ => rfl
  | n + 1, ps => by
    intro q c args hc hargs hlen
    simp only [withBudget_names, withBudget_params] at hc hargs ⊢
    rw [expand_withBudget_succ]
    have hbody := varsWithin_alias_body hA hc (expandKeepsVars_withBudget hA n c.params)
    refine TypeRef.varsWithin_substitute (fun e he => ?_) _
      (TypeRef.varsWithin_mono (fun _ hq => Keyed.mem_keys_ofListLast_zip hlen hq) _ hbody)
    obtain ⟨k, v⟩ := e
    exact hargs v (List.of_mem_zip (Keyed.mem_ofListLast he)).2

/-! ### Lowering depends only on the expansions it uses -/

section Congr

variable (L R : Lowering)

def ExpandsAlike (p : SynPath) : Prop :=
  ∀ q c, p.single? = some q → q ∉ R.params → R.names.aliases.get? q = some c → L.expand c = R.expand c

variable {L R}

theorem named_congr (hn : L.names = R.names) (hp : L.params = R.params) {p : SynPath}
    (he : ExpandsAlike L R p) (args : List (TypeRef × Option TypeRef)) : L.named p args = R.named p args := by
  cases hs : p.single? with
  | none => rw [L.named_of_resolved (by simp [hs]), R.named_of_resolved (by simp [hs]), hn]
  | some q =>
    by_cases hq : q ∈ R.params
    · rw [L.named_of_param hs (hp ▸ hq), R.named_of_param hs hq]
    cases ha : R.names.aliases.get? q with
    | some c => rw [L.named_of_alias hs (hp ▸ hq) (hn ▸ ha), R.named_of_alias hs hq ha, he q c hs hq ha]
    | none =>
      have hr : ∀ q', p.single? = some q' → q' ∉ R.params ∧ R.names.aliases.get? q' = none := by
        intro q' hq'
        cases hs.symm.trans hq'
        exact ⟨hq, ha⟩
      rw [L.named_of_resolved (hn ▸ hp ▸ hr), R.named_of_resolved hr, hn]

mutual
theorem ty_congr (hn : L.names = R.names) (hp : L.params = R.params) :
    ∀ t : Ty, (∀ p ∈ t.paths, ExpandsAlike L R p) → L.ty t = R.ty t
  | .path (.mk g segs), h => by
    rw [ty_path, ty_path, lastArgs_congr hn hp segs fun p hp => h p (List.mem_cons_of_mem _ hp)]
    exact named_congr hn hp (h _ List.mem_cons_self) _
  | .ref e, h | .paren e, h | .ptr e, h => ty_congr hn hp e h
  | .array e, h | .slice e, h => congrArg arrayOf (ty_congr hn hp e h)
  | .tuple [a, b], h => by
    simp only [ty]
    rw [ty_congr hn hp a fun p hq => h p (by simp [Ty.paths, Ty.pathsAll, hq]),
      ty_congr hn hp b fun p hq => h p (by simp [Ty.paths, Ty.pathsAll, hq])]
  -- the other types lower without their lowering's names or expansions
  | .tuple [], _ | .tuple [_], _ | .tuple (_ :: _ :: _ :: _), _ => by simp only [ty]
  | .qualified, _ | .traitObject _ _, _ | .implTrait _, _ | .infer, _ | .bareFn _, _
  | .macroCall _, _ | .never, _ | .verbatim _, _ => by simp only [ty]

theorem arrayElem_congr (hn : L.names = R.names) (hp : L.params = R.params) :
    ∀ t : Ty, (∀ p ∈ t.paths, ExpandsAlike L R p) → L.arrayElem t = R.arrayElem t
  | .array e, h => congrArg some (ty_congr hn hp e h)
  | .path _, _ | .ref _, _ | .paren _, _ | .ptr _, _ | .tuple _, _ | .slice _, _ | .qualified, _
  | .traitObject _ _, _ | .implTrait _, _ | .infer, _ | .bareFn _, _ | .macroCall _, _ | .never, _
  | .verbatim _, _ => by simp only [arrayElem]

theorem lastArgs_congr (hn : L.names = R.names) (hp : L.params = R.params) :
    ∀ segs : List Segment, (∀ p ∈ Segment.lastPaths segs, ExpandsAlike L R p) → L.lastArgs segs = R.lastArgs segs
  | [], _ => by simp only [lastArgs]
  | [.mk _ (.angle as)], h => genericArgs_congr hn hp as h
  | [.mk _ .none], _ | [.mk _ (.paren _ _)], _ => by simp only [lastArgs, segmentArgs]
  | _ :: s :: segs, h => by
    simp only [lastArgs]
    exact lastArgs_congr hn hp (s :: segs) (by simpa [Segment.lastPaths] using h)

theorem genericArgs_congr (hn : L.names = R.names) (hp : L.params = R.params) :
    ∀ as : List GenericArg, (∀ p ∈ GenericArg.pathsAll as, ExpandsAlike L R p) →
      L.genericArgs as = R.genericArgs as
  | [], _ => by simp only [genericArgs]
  | .type t :: as, h => by
    simp only [GenericArg.pathsAll, List.mem_append] at h
    simp only [genericArgs]
    rw [ty_congr hn hp t fun p hq => h p (.inl hq), arrayElem_congr hn hp t fun p hq => h p (.inl hq),
      genericArgs_congr hn hp as fun p hq => h p (.inr hq)]
  | .other :: as, h => by
    simp only [genericArgs]
    exact genericArgs_congr hn hp as h
end

end Congr

end Lowering

def Names.nestsWithin (names : Names) : Nat → List String → Ty → Bool
  | 0, ps, t => t.paths.all fun p =>
    (p.single?.filter (!ps.contains ·)).all fun q => (names.aliases.get? q).isNone
  | n + 1, ps, t => t.paths.all fun p =>
    (p.single?.filter (!ps.contains ·)).all fun q =>
      (names.aliases.get? q).all fun c => names.nestsWithin n c.params c.ty

theorem all_filter_single? {p : SynPath} {ps : List String} {P : String → Bool} :
    (p.single?.filter (!ps.contains ·)).all P = true ↔ ∀ q, p.single? = some q → q ∉ ps → P q = true := by
  cases p.single? with
  | none => simp
  | some q => by_cases hq : q ∈ ps <;> simp [Option.filter, hq]

theorem Names.nestsWithin_eq_true_iff (names : Names) (n : Nat) (ps : List String) (t : Ty) :
    names.nestsWithin n ps t = true ↔ ∀ p ∈ t.paths, ∀ q, p.single? = some q → q ∉ ps →
      ∀ a, names.aliases.get? q = some a → 0 < n ∧ names.nestsWithin (n - 1) a.params a.ty = true := by
  cases n with
  | zero =>
    simp only [Names.nestsWithin, List.all_eq_true, all_filter_single?]
    simp [Option.isNone_iff_eq_none, Option.eq_none_iff_forall_ne_some]
  | succ n =>
    simp only [Names.nestsWithin, List.all_eq_true, all_filter_single?]
    simp [Option.all_eq_true]

namespace Lowering

def withCutoff (names : Names) (stop : Alias → List TypeRef → TypeRef) : Nat → List String → Lowering
  | 0, params => { names, params, expand := stop }
  | n + 1, params =>
    { names, params, expand := fun a args =>
        ((withCutoff names stop n a.params).ty a.ty).substitute (Keyed.ofListLast (a.params.zip args)) }

def opaqueAlias (a : Alias) (_ : List TypeRef) : TypeRef := .verbatim a.ident.text false

section Cutoff

variable (names : Names) (stop : Alias → List TypeRef → TypeRef)

@[simp] theorem withCutoff_names (n : Nat) (ps : List String) :
    (withCutoff names stop n ps).names = names := by
  cases n <;> rfl

@[simp] theorem withCutoff_params (n : Nat) (ps : List String) :
    (withCutoff names stop n ps).params = ps := by
  cases n <;> rfl

theorem withBudget_eq_withCutoff : ∀ n ps, withBudget names n ps = withCutoff names opaqueAlias n ps
  | 0, _ => rfl
  | n + 1, ps => by
    simp only [withBudget, withCutoff, withBudget_eq_withCutoff n]

end Cutoff

theorem ty_withCutoff_of_nestsWithin {names : Names} {stop stop' : Alias → List TypeRef → TypeRef} (n : Nat) :
    ∀ ps t, names.nestsWithin n ps t = true → ∀ n', n ≤ n' →
      (withCutoff names stop n' ps).ty t = (withCutoff names stop' n ps).ty t := by
  induction n with
  | zero =>
    intro ps t h n' _
    refine ty_congr (by simp) (by simp) t fun p hp q c hs hq hc => ?_
    simp only [withCutoff_names, withCutoff_params] at hq hc
    -- with no level left the type uses no alias
    exact absurd ((names.nestsWithin_eq_true_iff 0 ps t).1 h p hp q hs hq c hc).1 (Nat.lt_irrefl 0)
  | succ n ih =>
    intro ps t h n' hle
    obtain ⟨k, rfl⟩ : ∃ k, n' = k + 1 := ⟨n' - 1, by omega⟩
    refine ty_congr (by simp) (by simp) t fun p hp q c hs hq hc => ?_
    simp only [withCutoff_names, withCutoff_params] at hq hc
    have hbody : names.nestsWithin n c.params c.ty = true := by
      simpa using ((names.nestsWithin_eq_true_iff (n + 1) ps t).1 h p hp q hs hq c hc).2
    funext args
    show ((withCutoff names stop k c.params).ty c.ty).substitute _ =
      ((withCutoff names stop' n c.params).ty c.ty).substitute _
    rw [ih c.params c.ty hbody k (by omega)]

/-- A type whose aliases nest within a budget lowers the same with any larger budget. -/
theorem ty_withBudget_of_nestsWithin {names : Names} :
    ∀ n ps t, names.nestsWithin n ps t = true → ∀ n', n ≤ n' →
      (withBudget names n' ps).ty t = (withBudget names n ps).ty t := by
  intro n ps t h n' hle
  rw [withBudget_eq_withCutoff, withBudget_eq_withCutoff]
  exact ty_withCutoff_of_nestsWithin n ps t h n' hle

end Lowering

/-! ### Lowering a written substitution -/

theorem Names.resolvePath_substAll (names : Names) (τ : List (String × Ty)) (g : Bool) (segs : List Segment) :
    names.resolvePath (.mk g (Segment.substAll τ segs)) = names.resolvePath (.mk g segs) := by
  simp only [Names.resolvePath, SynPath.segments, Segment.texts_substAll]

theorem normArrays_arrayOf (z : TypeRef) : (arrayOf z).normArrays = TypeRef.arrayNode Known.array [z.normArrays] false := by
  unfold arrayOf
  split
  · rename_i n
    cases hp : Known.primitiveArray? n with
    | some arr => simp [TypeRef.normArrays, TypeRef.normArraysAll, TypeRef.simpleRef, TypeRef.arrayNode, hp]
    | none => simp [TypeRef.normArrays, TypeRef.normArraysAll]
  · simp [TypeRef.normArrays, TypeRef.normArraysAll]

namespace Lowering

theorem arrayElem_of_isArray_false (L : Lowering) {t : Ty} (h : t.isArray = false) : L.arrayElem t = none := by
  cases t <;> simp_all [arrayElem, Ty.isArray]

/-- What lowering a written substitution needs: `L` lowers the substituted type and `R` the type
with the parameters `τ` gives as variables; `σ` holds the lowerings by `L` of the written values. -/
structure Commutes (L R : Lowering) (τ : List (String × Ty)) (σ : List (String × TypeRef)) : Prop where
  names : L.names = R.names
  expand : ∀ q c argsL argsR, R.names.aliases.get? q = some c → c.params.length ≤ argsR.length →
    List.Forall₂ (SubstEq σ) argsL argsR → SubstEq σ (L.expand c argsL) (R.expand c argsR)
  values : ∀ q, σ.lookup q = (τ.lookup q).map L.ty
  domain : ∀ q, (τ.lookup q).isSome = R.params.contains q

def Hygienic (L R : Lowering) (τ : List (String × Ty)) (p : SynPath) : Prop :=
  keepsMeaning R.params L.params p = true ∧ appliesAlias R.names R.params p = true ∧
    PassesNoArray R.names τ p

section Subst

variable {L R : Lowering} {τ : List (String × Ty)} {σ : List (String × TypeRef)}

theorem Commutes.param_substEq (hc : Commutes L R τ σ) {g : Bool} {i : Ident} {a : SegmentArgs} {x : Ty}
    (hx : τ.lookup i.text = some x) : SubstEq σ (L.ty ((Ty.path (.mk g [.mk i a])).subst τ)) (R.ty (.path (.mk g [.mk i a]))) := by
  have hq : i.text ∈ R.params := by
    have := hc.domain i.text
    rw [hx] at this
    simpa using this.symm
  rw [Ty.subst_path_hit hx, ty_path, R.named_of_param rfl hq, SubstEq,
    TypeRef.substitute_var (by rw [hc.values, hx, Option.map_some]), Bool.or_false, TypeRef.withNullable_nullable]

theorem Commutes.not_mem_params (hc : Commutes L R τ σ) {p : SynPath} {q : String} (hs : p.single? = some q)
    (hq : τ.lookup q = none) (hk : keepsMeaning R.params L.params p = true) : q ∉ R.params ∧ q ∉ L.params := by
  have hqR : q ∉ R.params := by
    intro hmem
    have := hc.domain q
    simp [hq, hmem] at this
  exact ⟨hqR, by simpa [keepsMeaning, hs, hqR] using hk⟩

theorem path_substEq (hc : Commutes L R τ σ) {g : Bool} {segs : List Segment} (hp : Hygienic L R τ (.mk g segs))
    (hargs : List.Forall₂ (ArgSubstEq σ (inlineArrayVecs.contains (R.names.resolvePath (.mk g segs))))
      (L.lastArgs (Segment.substAll τ segs)) (R.lastArgs segs)) :
    SubstEq σ (L.ty ((Ty.path (.mk g segs)).subst τ)) (R.ty (.path (.mk g segs))) := by
  by_cases hit : ∃ q x, (SynPath.mk g segs).single? = some q ∧ τ.lookup q = some x
  · obtain ⟨q, x, hs, hx⟩ := hit
    obtain ⟨i, a, rfl, rfl⟩ := SynPath.single?_eq_some hs
    exact hc.param_substEq hx
  push Not at hit
  have hmiss : ∀ q, (SynPath.mk g segs).single? = some q → τ.lookup q = none :=
    fun q hs => Option.eq_none_iff_forall_ne_some.mpr fun x => hit q x hs
  have hout : ∀ q, (SynPath.mk g segs).single? = some q → q ∉ R.params ∧ q ∉ L.params :=
    fun q hs => hc.not_mem_params hs (hmiss q hs) hp.1
  have hs' := SynPath.single?_substAll τ g segs
  rw [Ty.subst_path_miss hmiss, ty_path, ty_path]
  by_cases halias : ∃ q c, (SynPath.mk g segs).single? = some q ∧ R.names.aliases.get? q = some c
  · obtain ⟨q, c, hs, ha⟩ := halias
    rw [L.named_of_alias (hs'.trans hs) (hout q hs).2 (hc.names ▸ ha), R.named_of_alias hs (hout q hs).1 ha]
    refine hc.expand q c _ _ ha ?_ (ArgSubstEq.fst hargs)
    have hlen := R.lastArgs_length segs
    have happ : c.params.length ≤ (SynPath.mk g segs).typeArgs.length := by
      simpa [appliesAlias, hs, (hout q hs).1, ha] using hp.2.1
    simpa [hlen, SynPath.typeArgs, SynPath.segments] using happ
  push Not at halias
  have hnone : ∀ q, (SynPath.mk g segs).single? = some q → R.names.aliases.get? q = none :=
    fun q hs => Option.eq_none_iff_forall_ne_some.mpr fun c => halias q c hs
  rw [L.named_of_resolved fun q hs => ⟨(hout q (hs'.symm.trans hs)).2, hc.names ▸ hnone q (hs'.symm.trans hs)⟩,
    R.named_of_resolved fun q hs => ⟨(hout q hs).1, hnone q hs⟩, hc.names, Names.resolvePath_substAll]
  exact canonicalType_substEq _ hargs

theorem arrayElem_substEq_of_isArray {t : Ty} (ht : t.isArray = false) (hs : (t.subst τ).isArray = false) :
    Option.Rel (SubstEq σ) (L.arrayElem (t.subst τ)) (R.arrayElem t) := by
  rw [L.arrayElem_of_isArray_false hs, R.arrayElem_of_isArray_false ht]
  exact .none

mutual
/-- Lowering the written substitution is substituting in the lowering, up to the arrays of
scalars, for a type whose paths are hygienic. -/
theorem ty_substEq (hc : Commutes L R τ σ) : ∀ t : Ty, (∀ p ∈ t.paths, Hygienic L R τ p) →
    SubstEq σ (L.ty (t.subst τ)) (R.ty t)
  | .path (.mk g segs), h =>
    path_substEq hc (h _ List.mem_cons_self)
      (lastArgs_substEq hc _ segs (h _ List.mem_cons_self).2.2 fun p hp => h p (List.mem_cons_of_mem _ hp))
  | .ref e, h | .paren e, h | .ptr e, h => by
    simp only [Ty.subst, ty]
    exact ty_substEq hc e h
  | .array e, h | .slice e, h => by
    simp only [Ty.subst, ty]
    rw [SubstEq, normArrays_arrayOf, TypeRef.normArrays_substitute_arrayOf, ty_substEq hc e h]
  | .tuple [a, b], h => by
    simp only [Ty.subst, Ty.substAll, ty]
    exact substEq_named Known.pair false
      (.cons (ty_substEq hc a fun p hp => h p (by simp [Ty.paths, Ty.pathsAll, hp]))
        (.cons (ty_substEq hc b fun p hp => h p (by simp [Ty.paths, Ty.pathsAll, hp])) .nil))
  | .tuple [], _ | .tuple [_], _ | .tuple (_ :: _ :: _ :: _), _ => by
    simp [Ty.subst, Ty.substAll_eq_map, ty, SubstEq, TypeRef.simpleRef, TypeRef.substitute,
      TypeRef.substituteAll, TypeRef.normArrays]
  | .qualified, _ | .traitObject _ _, _ | .implTrait _, _ | .infer, _ | .bareFn _, _
  | .macroCall _, _ | .never, _ | .verbatim _, _ => by
    simp [Ty.subst, ty, SubstEq, TypeRef.substitute, TypeRef.normArrays]

theorem arrayElem_substEq (hc : Commutes L R τ σ) : ∀ t : Ty, (∀ p ∈ t.paths, Hygienic L R τ p) →
    (t.subst τ).isArray = t.isArray → Option.Rel (SubstEq σ) (L.arrayElem (t.subst τ)) (R.arrayElem t)
  | .array e, h, _ => by
    simp only [Ty.subst, arrayElem]
    exact .some (ty_substEq hc e h)
  | .path _, _, hs | .ref _, _, hs | .paren _, _, hs | .ptr _, _, hs | .tuple _, _, hs | .slice _, _, hs
  | .qualified, _, hs | .traitObject _ _, _, hs | .implTrait _, _, hs | .infer, _, hs | .bareFn _, _, hs
  | .macroCall _, _, hs | .never, _, hs | .verbatim _, _, hs => arrayElem_substEq_of_isArray rfl hs

theorem lastArgs_substEq (hc : Commutes L R τ σ) (arr : Bool) : ∀ segs : List Segment,
    (arr = true → NoArrayParam τ (Segment.lastTypes segs)) →
    (∀ p ∈ Segment.lastPaths segs, Hygienic L R τ p) →
    List.Forall₂ (ArgSubstEq σ arr) (L.lastArgs (Segment.substAll τ segs)) (R.lastArgs segs)
  | [], _, _ => by
    simp only [Segment.substAll, lastArgs]
    exact .nil
  | [.mk _ (.angle as)], ha, h => by
    simp only [Segment.substAll, SegmentArgs.subst, lastArgs, segmentArgs]
    exact genericArgs_substEq hc arr as ha h
  | [.mk _ .none], _, _ | [.mk _ (.paren _ (some _))], _, _ | [.mk _ (.paren _ none)], _, _ => by
    simp only [Segment.substAll, SegmentArgs.subst, lastArgs, segmentArgs]
    exact .nil
  | .mk i a :: .mk i' a' :: segs, ha, h => by
    simp only [Segment.substAll, lastArgs]
    exact lastArgs_substEq hc arr (.mk i' a' :: segs) (by simpa [Segment.lastTypes] using ha)
      (by simpa [Segment.lastPaths] using h)

theorem genericArgs_substEq (hc : Commutes L R τ σ) (arr : Bool) : ∀ as : List GenericArg,
    (arr = true → NoArrayParam τ (GenericArg.types as)) →
    (∀ p ∈ GenericArg.pathsAll as, Hygienic L R τ p) →
    List.Forall₂ (ArgSubstEq σ arr) (L.genericArgs (GenericArg.substAll τ as)) (R.genericArgs as)
  | [], _, _ => by
    simp only [GenericArg.substAll, genericArgs]
    exact .nil
  | .type t :: as, ha, h => by
    simp only [GenericArg.pathsAll, List.mem_append] at h
    simp only [GenericArg.substAll, genericArgs]
    -- the argument's array element is read only in an inline-array vector, where `t` is no
    -- parameter given an array
    refine .cons ⟨ty_substEq hc t fun p hp => h p (.inl hp), fun harr => ?_⟩
      (genericArgs_substEq hc arr as (fun harr u hu => ha harr u (by simp [GenericArg.types, hu]))
        fun p hp => h p (.inr hp))
    exact arrayElem_substEq hc t (fun p hp => h p (.inl hp))
      (Ty.isArray_subst (ha harr t (by simp [GenericArg.types])))
  | .other :: as, ha, h => by
    simp only [GenericArg.substAll, genericArgs]
    exact genericArgs_substEq hc arr as ha h
end

end Subst

theorem substEq_expand_withBudget {names : Names} (hA : names.AliasesApplied) (σ : List (String × TypeRef)) :
    ∀ (n : Nat) (ps ps' : List String) {q : String} {c : Alias} (argsL argsR : List TypeRef),
      names.aliases.get? q = some c → c.params.length ≤ argsR.length → List.Forall₂ (SubstEq σ) argsL argsR →
      SubstEq σ ((withBudget names n ps').expand c argsL) ((withBudget names n ps).expand c argsR)
  | 0, _, _, _, _, _, _, _, _, _ => rfl
  | n + 1, _, _, _, c, argsL, argsR, hc, hlen, hargs => by
    have hbody := varsWithin_alias_body hA hc (expandKeepsVars_withBudget hA n c.params)
    have hmap : argsL.map TypeRef.normArrays = argsR.map (TypeRef.normArrays ∘ TypeRef.substitute σ) :=
      map_eq_map_of_forall₂ hargs
    rw [expand_withBudget_succ, expand_withBudget_succ, SubstEq, TypeRef.substitute_substitute _ _ _
      (TypeRef.varsWithin_mono (fun _ hk => Keyed.mem_keys_ofListLast_zip hlen hk) _ hbody)]
    refine TypeRef.normArrays_substitute_congr (fun k => ?_) _
    rw [Keyed.lookup_map_snd, Option.map_map, ← Keyed.lookup_ofListLast_zip_map,
      ← Keyed.lookup_ofListLast_zip_map, hmap]

theorem commutes_withBudget {names : Names} {a : Alias} {Xs : List Ty} (happ : names.AliasesApplied)
    (hlen : a.params.length ≤ Xs.length) (n : Nat) (ps : List String) :
    Commutes (withBudget names n ps) (withBudget names n a.params) (Keyed.ofListLast (a.params.zip Xs))
      (Keyed.ofListLast (a.params.zip (Xs.map (withBudget names n ps).ty))) where
  names := by simp
  expand _ _ argsL argsR hc := substEq_expand_withBudget happ _ _ _ _ argsL argsR (by simpa using hc)
  values q := Keyed.lookup_ofListLast_zip_map _ a.params Xs q
  domain q := by simpa using Keyed.lookup_ofListLast_zip_isSome_eq hlen q

end Lowering

open Lowering in
theorem lowerType_use {names : Names} {params : List String} {A : Ident} {a : Alias} {Xs : List Ty}
    (ha : names.aliases.get? A.text = some a) (hA : A.text ∉ params)
    (hnest : names.nestsWithin aliasDepth params (Ty.use A Xs) = true) :
    lowerType names params (Ty.use A Xs) = ((withBudget names aliasDepth a.params).ty a.ty).substitute
      (Keyed.ofListLast (a.params.zip (Xs.map (lowerType names params)))) := by
  -- the body's aliases nest one level less deep than the use's, so one level less lowers it alike
  have hbody : names.nestsWithin (aliasDepth - 1) a.params a.ty = true :=
    ((names.nestsWithin_eq_true_iff _ _ _).1 hnest _ List.mem_cons_self A.text rfl hA a ha).2
  have hdepth : (withBudget names (aliasDepth - 1) a.params).ty a.ty = (withBudget names aliasDepth a.params).ty a.ty :=
    (ty_withBudget_of_nestsWithin _ _ _ hbody _ (Nat.sub_le _ _)).symm
  have hplain : ((Xs.map fun x => ((withBudget names aliasDepth params).ty x,
      (withBudget names aliasDepth params).arrayElem x)).map (·.1)) = Xs.map (lowerType names params) := by
    simp [lowerType]
  rw [lowerType, Ty.use, ty_path, named_of_alias _ rfl (by simpa [Segment.ident] using hA)
    (by simpa [Segment.ident] using ha), lastArgs_ofTypes, hplain, ← hdepth]
  exact expand_withBudget_succ names (aliasDepth - 1) params a _

open Lowering in
/-- A use `A<X₁, …, Xₙ>` of an alias `type A<P₁, …, Pₙ> = B;` by its bare name lowers, up to the
arrays of scalars, as the written substitution `B[P₁ := X₁, …, Pₙ := Xₙ]` lowers in the same
scope. The use gives the alias all its parameters and its aliases nest within the budget; no
name of `B` but the `Pᵢ` is a type parameter of the scope, every alias used in an alias body is
given all its parameters, and no `Xᵢ` that is an array is given for a `Pᵢ` that `B` passes as a
type argument to an inline-array vector. -/
theorem lowerType_alias_use {names : Names} {params : List String} {A : Ident} {a : Alias} {Xs : List Ty}
    (ha : names.aliases.get? A.text = some a) (hA : A.text ∉ params) (hlen : a.params.length ≤ Xs.length)
    (hkeep : ∀ p ∈ a.ty.paths, keepsMeaning a.params params p = true) (happ : names.AliasesApplied)
    (harr : ∀ p ∈ a.ty.paths, PassesNoArray names (Keyed.ofListLast (a.params.zip Xs)) p)
    (hnest : names.nestsWithin aliasDepth params (Ty.use A Xs) = true) :
    (lowerType names params (Ty.use A Xs)).normArrays =
      (lowerType names params (a.ty.subst (Keyed.ofListLast (a.params.zip Xs)))).normArrays := by
  rw [lowerType_use ha hA hnest]
  -- the body's paths keep their meaning in the scope and give their aliases all parameters
  have hpaths : ∀ p ∈ a.ty.paths, Hygienic (withBudget names aliasDepth params)
      (withBudget names aliasDepth a.params) (Keyed.ofListLast (a.params.zip Xs)) p :=
    fun p hp => ⟨by simpa using hkeep p hp, by simpa using happ _ (Keyed.mem_of_get? ha) p hp,
      by simpa using harr p hp⟩
  exact (ty_substEq (commutes_withBudget happ hlen aliasDepth params) a.ty hpaths).symm

def bothAlias : Alias where
  ident := ⟨"Both", false⟩
  params := ["P"]
  ty := .tuple [Ty.use ⟨"Option", false⟩ [Ty.use ⟨"P", false⟩ []], Ty.use ⟨"Vec", false⟩ [Ty.use ⟨"P", false⟩ []]]

def bothNames : Names where
  module := "crate"
  aliases := [("Both", bothAlias)]

def u8Array : Ty := .array (Ty.use ⟨"u8", false⟩ [])

theorem both_array_expands :
    (lowerType bothNames [] (Ty.use ⟨"Both", false⟩ [u8Array])).normArrays =
      (lowerType bothNames [] (bothAlias.ty.subst (Keyed.ofListLast (bothAlias.params.zip [u8Array])))).normArrays :=
  lowerType_alias_use rfl (by decide) (by decide) (by decide +kernel) (by decide +kernel) (by decide +kernel)
    (by decide +kernel)

def idAlias : Alias where
  ident := ⟨"Id", false⟩
  params := ["T"]
  ty := Ty.use ⟨"T", false⟩ []

def bareAlias : Alias where
  ident := ⟨"Bare", false⟩
  params := ["T"]
  ty := Ty.use ⟨"Id", false⟩ []

def bareNames : Names where
  module := "crate"
  aliases := [("Id", idAlias), ("Bare", bareAlias)]

/-- An alias body that gives a used alias too few parameters leaves that alias's variable in the
body, where the use's substitution captures it: `Bare<u8>` lowers to `u8`, while the written
substitution `Id` lowers to the variable `T`. Every other condition of `lowerType_alias_use`
holds. -/
theorem bare_alias_leaks_variable :
    ¬ bareNames.AliasesApplied ∧
      (∀ p ∈ bareAlias.ty.paths, keepsMeaning bareAlias.params [] p = true) ∧
      (∀ p ∈ bareAlias.ty.paths,
        PassesNoArray bareNames (Keyed.ofListLast (bareAlias.params.zip [Ty.use ⟨"u8", false⟩ []])) p) ∧
      bareNames.nestsWithin aliasDepth [] (Ty.use ⟨"Bare", false⟩ [Ty.use ⟨"u8", false⟩ []]) = true ∧
      lowerType bareNames [] (Ty.use ⟨"Bare", false⟩ [Ty.use ⟨"u8", false⟩ []]) = .named "u8" [] false ∧
      lowerType bareNames [] (bareAlias.ty.subst (Keyed.ofListLast (bareAlias.params.zip
        [Ty.use ⟨"u8", false⟩ []]))) = .var "T" [] false := by
  decide +kernel

def smallAlias : Alias where
  ident := ⟨"Small", false⟩
  params := ["P"]
  ty := Ty.use ⟨"SmallVec", false⟩ [Ty.use ⟨"P", false⟩ []]

def smallNames : Names where
  module := "crate"
  imports := [("SmallVec", "smallvec::SmallVec")]
  aliases := [("Small", smallAlias)]

/-- An inline-array vector takes the element of an array written as its argument, but not of one
substituted for a variable: `Small<[u8; 4]>` lowers to `SmallVec<[u8]>`, while the written
substitution `SmallVec<[u8; 4]>` lowers to `SmallVec<u8>`. Every other condition of
`lowerType_alias_use` holds. -/
theorem small_alias_keeps_array :
    (¬ ∀ p ∈ smallAlias.ty.paths, PassesNoArray smallNames (Keyed.ofListLast (smallAlias.params.zip [u8Array])) p) ∧
      smallNames.AliasesApplied ∧
      (∀ p ∈ smallAlias.ty.paths, keepsMeaning smallAlias.params [] p = true) ∧
      smallNames.nestsWithin aliasDepth [] (Ty.use ⟨"Small", false⟩ [u8Array]) = true ∧
      lowerType smallNames [] (Ty.use ⟨"Small", false⟩ [u8Array]) =
        .named "smallvec::SmallVec" [.named "[u8]" [] false] false ∧
      lowerType smallNames [] (smallAlias.ty.subst (Keyed.ofListLast (smallAlias.params.zip [u8Array]))) =
        .named "smallvec::SmallVec" [.named "u8" [] false] false ∧
      (TypeRef.named "smallvec::SmallVec" [.named "[u8]" [] false] false).normArrays ≠
        (TypeRef.named "smallvec::SmallVec" [.named "u8" [] false] false).normArrays := by
  decide +kernel

def wrapAlias : Alias where
  ident := ⟨"Wrap", false⟩
  params := []
  ty := Ty.use ⟨"Vec", false⟩ [Ty.use ⟨"Item", false⟩ []]

def wrapNames : Names where
  module := "crate"
  aliases := [("Wrap", wrapAlias)]

/-- In `struct Holder<Item> { f: Wrap }` the alias body's `Item` keeps naming the struct, where the
written substitution would read the type parameter: the name does not keep its meaning. -/
theorem holder_alias_keeps_struct :
    keepsMeaning [] ["Item"] (.mk false [.mk ⟨"Item", false⟩ .none]) = false ∧
    lowerType wrapNames ["Item"] (Ty.use ⟨"Wrap", false⟩ []) =
      .named "std::vec::Vec" [.named "crate::Item" [] false] false ∧
    lowerType wrapNames ["Item"] (wrapAlias.ty.subst (Keyed.ofListLast (wrapAlias.params.zip []))) =
      .named "std::vec::Vec" [.var "Item" [] false] false := by
  decide +kernel

end Source

end TypeBridge
