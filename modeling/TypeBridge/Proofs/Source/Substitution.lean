import TypeBridge.Proofs.Source.Scopes
import TypeBridge.Proofs.Render.NodeText
import TypeBridge.Source.Lower
/-!
# Substitution in written types and in type expressions

`Rust.Ty.subst` substitutes in written types and `TypeRef.substitute` in type expressions. This
module collects what lowering a substitution needs of both: composing substitutions, the variables
they leave, and `TypeRef.normArrays`, up to which a substitution matters only through its values.
-/

namespace TypeBridge

/-! ### Syntactic substitution -/

namespace Rust

mutual
/-- Replace every path of one segment that `τ` names by its type: the written substitution of
types for type parameters. -/
def Ty.subst (τ : List (String × Ty)) : Ty → Ty
  | .path (.mk g [.mk i a]) =>
    match τ.lookup i.text with
    | some x => x
    | none => .path (.mk g [.mk i (SegmentArgs.subst τ a)])
  | .path (.mk g segs) => .path (.mk g (Segment.substAll τ segs))
  | .ref e => .ref (e.subst τ)
  | .paren e => .paren (e.subst τ)
  | .ptr e => .ptr (e.subst τ)
  | .tuple es => .tuple (Ty.substAll τ es)
  | .array e => .array (e.subst τ)
  | .slice e => .slice (e.subst τ)
  | t => t
def Ty.substAll (τ : List (String × Ty)) : List Ty → List Ty
  | [] => []
  | t :: ts => t.subst τ :: Ty.substAll τ ts
def Segment.substAll (τ : List (String × Ty)) : List Segment → List Segment
  | [] => []
  | .mk i a :: segs => .mk i (SegmentArgs.subst τ a) :: Segment.substAll τ segs
/-- `Ty.subst` in the arguments of a segment. -/
def SegmentArgs.subst (τ : List (String × Ty)) : SegmentArgs → SegmentArgs
  | .none => .none
  | .angle as => .angle (GenericArg.substAll τ as)
  | .paren ins (some out) => .paren (Ty.substAll τ ins) (some (out.subst τ))
  | .paren ins none => .paren (Ty.substAll τ ins) none
def GenericArg.substAll (τ : List (String × Ty)) : List GenericArg → List GenericArg
  | [] => []
  | .type t :: as => .type (t.subst τ) :: GenericArg.substAll τ as
  | .other :: as => .other :: GenericArg.substAll τ as
end

def SegmentArgs.ofTypes : List Ty → SegmentArgs
  | [] => .none
  | ts => .angle (ts.map .type)

def Ty.use (A : Ident) (Xs : List Ty) : Ty := .path (.mk false [.mk A (.ofTypes Xs)])

def Ty.isArray : Ty → Bool
  | .array _ => true
  | _ => false

def SynPath.single? (p : SynPath) : Option String :=
  match p.segments with
  | [s] => some s.ident.text
  | _ => none

def GenericArg.types : List GenericArg → List Ty
  | [] => []
  | .type t :: as => t :: GenericArg.types as
  | .other :: as => GenericArg.types as

def Segment.lastTypes : List Segment → List Ty
  | [] => []
  | [.mk _ (.angle as)] => GenericArg.types as
  | [.mk _ _] => []
  | _ :: segs => Segment.lastTypes segs

def SynPath.typeArgs (p : SynPath) : List Ty := Segment.lastTypes p.segments

mutual
def Ty.paths : Ty → List SynPath
  | .path (.mk g segs) => .mk g segs :: Segment.lastPaths segs
  | .ref e | .paren e | .ptr e | .array e | .slice e => e.paths
  | .tuple es => Ty.pathsAll es
  | _ => []
def Ty.pathsAll : List Ty → List SynPath
  | [] => []
  | t :: ts => t.paths ++ Ty.pathsAll ts
def Segment.lastPaths : List Segment → List SynPath
  | [] => []
  | [.mk _ (.angle as)] => GenericArg.pathsAll as
  | [.mk _ _] => []
  | _ :: segs => Segment.lastPaths segs
def GenericArg.pathsAll : List GenericArg → List SynPath
  | [] => []
  | .type t :: as => t.paths ++ GenericArg.pathsAll as
  | .other :: as => GenericArg.pathsAll as
end

theorem Segment.texts_substAll (τ : List (String × Ty)) :
    ∀ segs : List Segment, (Segment.substAll τ segs).map (·.ident.text) = segs.map (·.ident.text)
  | [] => rfl
  | .mk i a :: segs => by
    rw [Segment.substAll, List.map_cons, List.map_cons, texts_substAll τ segs]
    rfl

theorem SynPath.single?_substAll (τ : List (String × Ty)) (g : Bool) (segs : List Segment) :
    (SynPath.mk g (Segment.substAll τ segs)).single? = (SynPath.mk g segs).single? := by
  rcases segs with _ | ⟨⟨i, a⟩, _ | ⟨⟨i', a'⟩, rest⟩⟩ <;> rfl

theorem Ty.subst_path_miss {τ : List (String × Ty)} {g : Bool} {segs : List Segment}
    (h : ∀ q, (SynPath.mk g segs).single? = some q → τ.lookup q = none) :
    (Ty.path (.mk g segs)).subst τ = .path (.mk g (Segment.substAll τ segs)) := by
  rcases segs with _ | ⟨⟨i, a⟩, _ | ⟨⟨i', a'⟩, rest⟩⟩
  · rfl
  · simp [Ty.subst, Segment.substAll, h i.text rfl]
  · rfl

theorem Ty.subst_path_hit {τ : List (String × Ty)} {g : Bool} {i : Ident} {a : SegmentArgs} {x : Ty}
    (h : τ.lookup i.text = some x) : (Ty.path (.mk g [.mk i a])).subst τ = x := by
  simp [Ty.subst, h]

theorem Ty.substAll_eq_map (τ : List (String × Ty)) : ∀ ts : List Ty, Ty.substAll τ ts = ts.map (Ty.subst τ)
  | [] => rfl
  | t :: ts => by rw [Ty.substAll, Ty.substAll_eq_map τ ts, List.map_cons]

theorem SynPath.single?_eq_some {g : Bool} {segs : List Segment} {q : String}
    (h : (SynPath.mk g segs).single? = some q) : ∃ i a, segs = [.mk i a] ∧ i.text = q := by
  rcases segs with _ | ⟨⟨i, a⟩, _ | ⟨s, rest⟩⟩ <;> simp [single?, segments] at h
  exact ⟨i, a, rfl, h⟩

def Ty.single? : Ty → Option String
  | .path p => p.single?
  | _ => none

def NoArrayParam (τ : List (String × Ty)) (ts : List Ty) : Prop :=
  ∀ t ∈ ts, ∀ q ∈ t.single?, ∀ x ∈ τ.lookup q, x.isArray = false

instance (τ : List (String × Ty)) (ts : List Ty) : Decidable (NoArrayParam τ ts) :=
  inferInstanceAs (Decidable (∀ t ∈ ts, _))

theorem Ty.isArray_subst {τ : List (String × Ty)} {t : Ty}
    (hX : ∀ q ∈ t.single?, ∀ x ∈ τ.lookup q, x.isArray = false) :
    (t.subst τ).isArray = t.isArray := by
  cases t
  case path p =>
    obtain ⟨g, segs⟩ := p
    rcases segs with _ | ⟨⟨i, a⟩, _ | ⟨s, rest⟩⟩
    · rfl
    · cases h : τ.lookup i.text with
      | none => simp [Ty.subst, h, Ty.isArray]
      | some x => rw [Ty.subst_path_hit h]; exact hX _ rfl _ h
    · rfl
  all_goals simp [Ty.subst, Ty.isArray]

end Rust

/-! ### Substitutions as keyed lists -/

namespace Keyed

variable {α β : Type}

theorem lookup_map_snd (f : α → β) (ρ : List (String × α)) (n : String) :
    (ρ.map fun e => (e.1, f e.2)).lookup n = (ρ.lookup n).map f := by
  induction ρ with
  | nil => rfl
  | cons e ρ ih =>
    obtain ⟨k, v⟩ := e
    by_cases h : n = k
    · simp [h]
    · have h' : (n == k) = false := beq_eq_false_iff_ne.mpr h
      simp [List.lookup_cons, h', ih]

theorem mem_of_lookup {ρ : List (String × α)} {n : String} {v : α} (h : ρ.lookup n = some v) :
    (n, v) ∈ ρ := by
  induction ρ with
  | nil => simp at h
  | cons e ρ ih =>
    obtain ⟨k, w⟩ := e
    by_cases hn : n = k
    · subst hn
      simp only [List.lookup_cons, beq_self_eq_true, Option.some.injEq] at h
      simp [h]
    · have hn' : (n == k) = false := beq_eq_false_iff_ne.mpr hn
      simp only [List.lookup_cons, hn'] at h
      exact List.mem_cons_of_mem _ (ih h)

theorem lookup_isSome_of_mem {ρ : List (String × α)} {n : String} (h : n ∈ ρ.map Prod.fst) :
    (ρ.lookup n).isSome := by
  induction ρ with
  | nil => simp at h
  | cons e ρ ih =>
    obtain ⟨k, w⟩ := e
    by_cases hn : n = k
    · simp [hn]
    · have hn' : (n == k) = false := beq_eq_false_iff_ne.mpr hn
      simp only [List.map_cons, List.mem_cons, hn, false_or] at h
      simpa [List.lookup_cons, hn'] using ih h

theorem upsert_map_snd (f : α → β) (m : Keyed α) (k : String) (v : α) :
    upsert (m.map fun e => (e.1, f e.2)) k (f v) = (m.upsert k v).map fun e => (e.1, f e.2) := by
  have hc : contains (m.map fun e => (e.1, f e.2)) k = m.contains k := by
    simp only [contains, List.any_map]
    rfl
  unfold upsert
  rw [hc]
  split
  · simp only [List.map_map]
    refine List.map_congr_left fun e _ => ?_
    by_cases he : e.1 = k <;> simp [he]
  · simp

theorem ofListLast_map_snd (f : α → β) (xs : List (String × α)) :
    ofListLast (xs.map fun e => (e.1, f e.2)) = (ofListLast xs).map fun e => (e.1, f e.2) := by
  suffices h : ∀ acc : Keyed α,
      (xs.map fun e => (e.1, f e.2)).foldl (fun (m : Keyed β) e => upsert m e.1 e.2) (acc.map fun e => (e.1, f e.2)) =
        (xs.foldl (fun (m : Keyed α) e => upsert m e.1 e.2) acc).map fun e => (e.1, f e.2) from
    h []
  induction xs with
  | nil => intro acc; rfl
  | cons x xs ih =>
    intro acc
    rw [List.map_cons, List.foldl_cons, List.foldl_cons, upsert_map_snd, ih]

/-- The value a substitution built from parameters and lowered arguments gives a name is the
lowered value that the substitution of the written arguments gives it. -/
theorem lookup_ofListLast_zip_map (f : α → β) (ks : List String) (xs : List α) (k : String) :
    (ofListLast (ks.zip (xs.map f))).lookup k = ((ofListLast (ks.zip xs)).lookup k).map f := by
  have hzip : ks.zip (xs.map f) = (ks.zip xs).map fun e => (e.1, f e.2) := by
    rw [List.zip_map_right]
    rfl
  rw [hzip, ofListLast_map_snd, lookup_map_snd]

theorem mem_ofListLast {xs : List (String × α)} {e : String × α} (h : e ∈ ofListLast xs) : e ∈ xs := by
  rcases mem_foldl_upsert Prod.fst Prod.snd xs h with h | ⟨x, hx, rfl⟩
  · cases h
  · exact hx

theorem mem_zip_of_lookup_ofListLast {ks : List String} {xs : List α} {k : String} {x : α}
    (h : (ofListLast (ks.zip xs)).lookup k = some x) : (k, x) ∈ ks.zip xs :=
  mem_ofListLast (mem_of_lookup h)

theorem lookup_ofListLast_zip_isSome {ks : List String} {xs : List α} (hlen : ks.length ≤ xs.length) {k : String}
    (hk : k ∈ ks) : ((ofListLast (ks.zip xs)).lookup k).isSome := by
  apply lookup_isSome_of_mem
  obtain ⟨y, hy, rfl⟩ : ∃ y ∈ ks.zip xs, y.1 = k := by
    rw [← List.map_fst_zip hlen] at hk
    exact List.mem_map.mp hk
  exact mem_keys_foldl_upsert.mpr (.inr ⟨y, hy, rfl⟩)

theorem mem_keys_ofListLast_zip {ks : List String} {xs : List α} (hlen : ks.length ≤ xs.length) {k : String}
    (hk : k ∈ ks) : k ∈ (ofListLast (ks.zip xs)).map Prod.fst := by
  obtain ⟨v, hv⟩ := Option.isSome_iff_exists.mp (lookup_ofListLast_zip_isSome hlen hk)
  exact List.mem_map.mpr ⟨_, mem_of_lookup hv, rfl⟩

/-- Parameters given all their arguments have a value exactly for the parameters. -/
theorem lookup_ofListLast_zip_isSome_eq {ks : List String} {xs : List α} (hlen : ks.length ≤ xs.length)
    (k : String) : ((ofListLast (ks.zip xs)).lookup k).isSome = ks.contains k := by
  by_cases hk : k ∈ ks
  · rw [lookup_ofListLast_zip_isSome hlen hk]
    simp [hk]
  · cases h : (ofListLast (ks.zip xs)).lookup k with
    | none => simp [hk]
    | some x => exact absurd (List.of_mem_zip (mem_zip_of_lookup_ofListLast h)).1 hk

end Keyed

/-! ### Arrays of scalars, and the variables of an expression -/

namespace TypeRef

def arrayNode (n : String) (args : List TypeRef) (b : Bool) : TypeRef :=
  match n == Known.array, args with
  | true, [.named p [] false] =>
    match Known.primitiveArray? p with
    | some arr => .named arr [] b
    | none => .named n args b
  | _, _ => .named n args b

mutual
/-- Every array type applied to a number or character written as the array of that scalar. -/
def normArrays : TypeRef → TypeRef
  | .named n args b => arrayNode n (normArraysAll args) b
  | t => t
def normArraysAll : List TypeRef → List TypeRef
  | [] => []
  | t :: ts => normArrays t :: normArraysAll ts
end

mutual
def varsWithin (qs : List String) : TypeRef → Bool
  | .var n _ _ => qs.contains n
  | .named _ args _ => varsWithinAll qs args
  | _ => true
def varsWithinAll (qs : List String) : List TypeRef → Bool
  | [] => true
  | t :: ts => varsWithin qs t && varsWithinAll qs ts
end

/-! ### Substitution -/

@[simp] theorem nullable_withNullable (b : Bool) (t : TypeRef) : (t.withNullable b).nullable = b := by
  cases t <;> rfl

theorem withNullable_nullable (t : TypeRef) : t.withNullable t.nullable = t := by
  cases t <;> rfl

theorem substituteAll_eq_map (σ : List (String × TypeRef)) (ts : List TypeRef) :
    substituteAll σ ts = ts.map (substitute σ) := by
  induction ts with
  | nil => rfl
  | cons t ts ih => simp [substituteAll, ih]

theorem normArraysAll_eq_map (ts : List TypeRef) : normArraysAll ts = ts.map normArrays := by
  induction ts with
  | nil => rfl
  | cons t ts ih => simp [normArraysAll, ih]

theorem varsWithinAll_iff (qs : List String) (ts : List TypeRef) :
    varsWithinAll qs ts = true ↔ ∀ t ∈ ts, varsWithin qs t = true := by
  induction ts with
  | nil => simp [varsWithinAll]
  | cons t ts ih => simp [varsWithinAll, ih]

theorem withNullable_withNullable (t : TypeRef) (b c : Bool) : (t.withNullable b).withNullable c = t.withNullable c := by
  cases t <;> rfl

theorem substitute_var {σ : List (String × TypeRef)} {n : String} {v : TypeRef} (h : σ.lookup n = some v)
    (bs : List TypeRef) (b : Bool) : (TypeRef.var n bs b).substitute σ = v.withNullable (v.nullable || b) := by
  simp [substitute, h]

theorem substitute_withNullable_true (σ : List (String × TypeRef)) (t : TypeRef) :
    (t.withNullable true).substitute σ = (t.substitute σ).withNullable true := by
  cases t with
  | var n bs b =>
    cases h : σ.lookup n with
    | none => simp [substitute, withNullable, h]
    | some v =>
      rw [show (TypeRef.var n bs b).withNullable true = .var n bs true from rfl, substitute_var h,
        substitute_var h, withNullable_withNullable, Bool.or_true]
  | named n args b => simp [substitute, withNullable]
  | wildcard | verbatim => rfl

theorem exists_lookup_of_varsWithin {ρ : List (String × TypeRef)} {n : String} {bs : List TypeRef} {b : Bool}
    (h : (TypeRef.var n bs b).varsWithin (ρ.map Prod.fst) = true) : ∃ v, ρ.lookup n = some v :=
  Option.isSome_iff_exists.mp (Keyed.lookup_isSome_of_mem (List.contains_iff_mem.mp (by simpa [varsWithin] using h)))

/-- Substituting in two steps substitutes the second substitution's results, where the first
substitution names every variable. -/
theorem substitute_substitute (ρ σ : List (String × TypeRef)) (t : TypeRef)
    (ht : t.varsWithin (ρ.map Prod.fst) = true) :
    (t.substitute ρ).substitute σ = t.substitute (ρ.map fun e => (e.1, e.2.substitute σ)) := by
  induction t using TypeRef.induction_args with
  | h t ih =>
    cases t with
    | var n bs b =>
      obtain ⟨v, hv⟩ := exists_lookup_of_varsWithin ht
      have hv' : (ρ.map fun e => (e.1, e.2.substitute σ)).lookup n = some (v.substitute σ) := by
        rw [Keyed.lookup_map_snd, hv, Option.map_some]
      rw [substitute_var hv, substitute_var hv']
      -- a nullable use makes the result nullable; otherwise it is the substituted value itself
      cases b
      · simp [withNullable_nullable]
      · simp [substitute_withNullable_true]
    | named n args b =>
      simp only [varsWithin, varsWithinAll_iff] at ht
      simp only [substitute, substituteAll_eq_map, List.map_map]
      congr 1
      exact List.map_congr_left fun a ha => ih a ha (ht a ha)
    | wildcard | verbatim => rfl

/-! ### Arrays of scalars, up to substitution -/

theorem arrayNode_withNullable (n : String) (args : List TypeRef) (b c : Bool) :
    (arrayNode n args b).withNullable c = arrayNode n args c := by
  unfold arrayNode
  split
  · split <;> rfl
  · rfl

@[simp] theorem nullable_arrayNode (n : String) (args : List TypeRef) (b : Bool) :
    (arrayNode n args b).nullable = b := by
  unfold arrayNode
  split
  · split <;> rfl
  · rfl

@[simp] theorem nullable_normArrays (t : TypeRef) : t.normArrays.nullable = t.nullable := by
  cases t with
  | named n args b => exact nullable_arrayNode n _ b
  | var | wildcard | verbatim => rfl

theorem normArrays_withNullable (t : TypeRef) (c : Bool) :
    (t.withNullable c).normArrays = t.normArrays.withNullable c := by
  cases t with
  | named n args b => exact (arrayNode_withNullable n _ b c).symm
  | var | wildcard | verbatim => rfl

theorem normArrays_substitute_arrayOf (σ : List (String × TypeRef)) (y : TypeRef) :
    ((TypeBridge.Source.arrayOf y).substitute σ).normArrays =
      arrayNode Known.array [(y.substitute σ).normArrays] false := by
  unfold TypeBridge.Source.arrayOf
  split
  · rename_i n
    cases hp : Known.primitiveArray? n with
    | some arr =>
      simp [normArrays, normArraysAll, simpleRef, substitute, substituteAll, arrayNode, hp]
    | none => simp [substitute, substituteAll, normArrays, normArraysAll]
  · simp [substitute, substituteAll, normArrays, normArraysAll]

/-- Up to the arrays of scalars, a substitution only matters through its values up to the arrays
of scalars. -/
theorem normArrays_substitute_congr {ρ₁ ρ₂ : List (String × TypeRef)}
    (h : ∀ n, (ρ₁.lookup n).map normArrays = (ρ₂.lookup n).map normArrays) (t : TypeRef) :
    (t.substitute ρ₁).normArrays = (t.substitute ρ₂).normArrays := by
  induction t using TypeRef.induction_args with
  | h t ih =>
    cases t with
    | var n bs b =>
      have hn := h n
      cases h₁ : ρ₁.lookup n <;> cases h₂ : ρ₂.lookup n <;> simp only [h₁, h₂] at hn
      · simp [substitute, h₁, h₂]
      · cases hn
      · cases hn
      · rename_i v₁ v₂
        simp only [Option.map_some, Option.some.injEq] at hn
        have hnull : v₁.nullable = v₂.nullable := by
          rw [← nullable_normArrays, hn, nullable_normArrays]
        rw [substitute_var h₁, substitute_var h₂, normArrays_withNullable, normArrays_withNullable, hn, hnull]
    | named n args b =>
      simp only [substitute, substituteAll_eq_map, normArrays, normArraysAll_eq_map, List.map_map]
      congr 1
      exact List.map_congr_left fun a ha => ih a ha
    | wildcard | verbatim => rfl

theorem varsWithin_withNullable (qs : List String) (t : TypeRef) (b : Bool) :
    (t.withNullable b).varsWithin qs = t.varsWithin qs := by
  cases t <;> rfl

theorem varsWithin_mono {qs qs' : List String} (h : ∀ q ∈ qs, q ∈ qs') (t : TypeRef)
    (ht : t.varsWithin qs = true) : t.varsWithin qs' = true := by
  induction t using TypeRef.induction_args with
  | h t ih =>
    cases t with
    | var n bs b => simpa [varsWithin] using h n (by simpa [varsWithin] using ht)
    | named n args b =>
      simp only [varsWithin, varsWithinAll_iff] at ht ⊢
      exact fun a ha => ih a ha (ht a ha)
    | wildcard | verbatim => rfl

/-- A substitution that names every variable of an expression, by values whose variables are
in `qs`, leaves only variables in `qs`. -/
theorem varsWithin_substitute {ρ : List (String × TypeRef)} {qs : List String} (hρ : ∀ e ∈ ρ, e.2.varsWithin qs = true)
    (t : TypeRef) (ht : t.varsWithin (ρ.map Prod.fst) = true) : (t.substitute ρ).varsWithin qs = true := by
  induction t using TypeRef.induction_args with
  | h t ih =>
    cases t with
    | var n bs b =>
      obtain ⟨v, hv⟩ := exists_lookup_of_varsWithin ht
      rw [substitute_var hv, varsWithin_withNullable]
      exact hρ _ (Keyed.mem_of_lookup hv)
    | named n args b =>
      simp only [varsWithin, varsWithinAll_iff] at ht
      simp only [substitute, substituteAll_eq_map, varsWithin, varsWithinAll_iff, List.mem_map]
      rintro _ ⟨a, ha, rfl⟩
      exact ih a ha (ht a ha)
    | wildcard | verbatim => rfl

end TypeRef

end TypeBridge
