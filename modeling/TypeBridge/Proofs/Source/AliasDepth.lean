import TypeBridge.Proofs.Source.Aliases
/-!
# Alias expansion stops sixteen levels down

Counted from the written type, lowering solves a recursion in which an alias at the cutoff level
is written by a cutoff function and one above it is expanded (`Lowering.SolvesDepth`); the
budgeted lowering is its only solution (`Lowering.solvesDepth_iff`), so lowering terminates on
every scope. When alias chains are at most sixteen long the cutoff plays no part
(`lowerType_alias_depth`).
-/

namespace TypeBridge.Source

open Rust

/-! ### Levels counted down from the written type -/

namespace Lowering

section Depth

variable (names : Names) (stop : Alias → List TypeRef → TypeRef)

def atDepth (limit : Nat) (F : Nat → List String → Ty → TypeRef) (d : Nat) (ps : List String) :
    Lowering :=
  { names, params := ps, expand := fun a args =>
      if limit ≤ d then stop a args
      else (F (d + 1) a.params a.ty).substitute (Keyed.ofListLast (a.params.zip args)) }

/-- `F` lowers every type at every level as that level does. -/
def SolvesDepth (limit : Nat) (F : Nat → List String → Ty → TypeRef) : Prop :=
  ∀ d ps t, F d ps t = (atDepth names stop limit F d ps).ty t

variable {names stop} {limit : Nat} {F : Nat → List String → Ty → TypeRef} {d : Nat}

theorem atDepth_of_le (hd : limit ≤ d) (ps : List String) :
    atDepth names stop limit F d ps = withCutoff names stop 0 ps := by
  simp [atDepth, withCutoff, hd]

theorem atDepth_of_lt (hd : d < limit)
    (hF : ∀ ps t, F (d + 1) ps t = (withCutoff names stop (limit - (d + 1)) ps).ty t)
    (ps : List String) :
    atDepth names stop limit F d ps = withCutoff names stop (limit - d) ps := by
  obtain ⟨k, hk, hk'⟩ : ∃ k, limit - d = k + 1 ∧ limit - (d + 1) = k := ⟨limit - (d + 1), by omega, rfl⟩
  rw [hk, withCutoff]
  simp [atDepth, show ¬limit ≤ d by omega, hF, hk']

/-- The recursion of `lower_at` has exactly one solution: the budgeted lowering with the levels left
before the cutoff. The induction is on those levels: at the cutoff a level does not call `F`, and
above it a level calls `F` one level further down only. -/
theorem solvesDepth_iff :
    SolvesDepth names stop limit F ↔ ∀ d ps t, F d ps t = (withCutoff names stop (limit - d) ps).ty t := by
  constructor
  · intro h
    suffices ∀ k d, limit - d = k → ∀ ps t, F d ps t = (withCutoff names stop k ps).ty t from
      fun d => this _ d rfl
    intro k
    induction k with
    | zero =>
      intro d hd ps t
      rw [h, atDepth_of_le (by omega)]
    | succ k ih =>
      intro d hd ps t
      have hnext : limit - (d + 1) = k := by omega
      rw [h, atDepth_of_lt (by omega) (fun ps t => hnext ▸ ih (d + 1) hnext ps t), hd]
  · intro h d ps t
    by_cases hd : limit ≤ d
    · rw [h, atDepth_of_le hd, Nat.sub_eq_zero_of_le hd]
    · rw [h, atDepth_of_lt (by omega) (fun ps t => h (d + 1) ps t)]

theorem SolvesDepth.alias_of_le (h : SolvesDepth names stop limit F) (hd : limit ≤ d)
    {ps : List String} {A : Ident} {a : Alias} (hA : A.text ∉ ps) (ha : names.aliases.get? A.text = some a)
    (Xs : List Ty) : F d ps (Ty.use A Xs) = stop a (Xs.map (F d ps)) := by
  rw [h, Ty.use, ty_path, named_of_alias _ rfl hA ha, lastArgs_ofTypes, List.map_map]
  change (if limit ≤ d then _ else _) = _
  rw [if_pos hd]
  congr 1
  exact List.map_congr_left fun x _ => (h d ps x).symm

end Depth

end Lowering

/-! ### Chains of aliases -/

/-- A path of nested alias uses from a type, with the type parameters `ps` in scope: an alias the
type names by a bare name that none of `ps` takes, then such a path from that alias's body, where
the alias's own parameters are in scope. -/
inductive Names.ExpansionPath (names : Names) : List String → Ty → List Alias → Prop
  | nil {ps t} : Names.ExpansionPath names ps t []
  | cons {ps t p q a rest} : p ∈ t.paths → p.single? = some q → q ∉ ps →
      names.aliases.get? q = some a → Names.ExpansionPath names a.params a.ty rest →
      Names.ExpansionPath names ps t (a :: rest)

def Names.AliasChainsWithin (names : Names) (n : Nat) : Prop :=
  ∀ q a rest, names.aliases.get? q = some a → names.ExpansionPath a.params a.ty rest →
    rest.length + 1 ≤ n

/-- A type's aliases nest within `n` levels exactly when every path of nested alias uses from it has
at most `n` aliases. -/
theorem Names.nestsWithin_iff (names : Names) (n : Nat) (ps : List String) (t : Ty) :
    names.nestsWithin n ps t = true ↔ ∀ c, names.ExpansionPath ps t c → c.length ≤ n := by
  constructor
  · -- along the path, each alias takes up one level
    intro h c hc
    induction hc generalizing n with
    | nil => exact Nat.zero_le n
    | cons hp hq hps ha _ ih =>
      obtain ⟨hpos, hbody⟩ := (names.nestsWithin_eq_true_iff _ _ _).1 h _ hp _ hq hps _ ha
      have := ih (n - 1) hbody
      simp only [List.length_cons]
      omega
  · -- on the levels: an alias the type uses starts a path, which each path from its body extends
    intro h
    induction n generalizing ps t with
    | zero =>
      rw [Names.nestsWithin_eq_true_iff]
      intro p hp q hq hps a ha
      simpa using h [a] (.cons hp hq hps ha .nil)
    | succ n ih =>
      rw [Names.nestsWithin_eq_true_iff]
      intro p hp q hq hps a ha
      refine ⟨Nat.succ_pos n, ih a.params a.ty fun rest hrest => ?_⟩
      simpa using h _ (.cons hp hq hps ha hrest)

theorem Names.nestsWithin_of_aliasChainsWithin {names : Names} {n : Nat} (h : names.AliasChainsWithin n)
    (ps : List String) (t : Ty) : names.nestsWithin n ps t = true := by
  rw [Names.nestsWithin_iff]
  rintro _ (_ | ⟨_, _, _, ha, hrest⟩)
  · exact Nat.zero_le n
  · exact h _ _ _ ha hrest

theorem Names.aliasChainsWithin_iff (names : Names) (n : Nat) :
    names.AliasChainsWithin n ↔ ∀ q ∈ names.aliases.keys,
      (names.aliases.get? q).all fun a => decide (0 < n) && names.nestsWithin (n - 1) a.params a.ty := by
  constructor
  · intro h q _
    cases ha : names.aliases.get? q with
    | none => rfl
    | some a =>
      have hpos : 0 < n := by
        have := h q a [] ha .nil
        simp only [List.length_nil] at this
        omega
      have hbody : names.nestsWithin (n - 1) a.params a.ty = true :=
        (names.nestsWithin_iff _ _ _).2 fun rest hrest => by have := h q a rest ha hrest; omega
      simp [hpos, hbody]
  · intro h q a rest ha hrest
    have hq : q ∈ names.aliases.keys := List.mem_map.2 ⟨_, Keyed.mem_of_get? ha, rfl⟩
    have := h q hq
    simp only [ha, Option.all_some, Bool.and_eq_true, decide_eq_true_eq] at this
    have := (names.nestsWithin_iff _ _ _).1 this.2 rest hrest
    omega

instance (names : Names) (n : Nat) : Decidable (names.AliasChainsWithin n) :=
  decidable_of_iff _ (names.aliasChainsWithin_iff n).symm

/-- Lowering a type terminates on every scope, aliases that refer to themselves or to one another
included. The recursion of `lower_at`, with the cutoff sixteen levels down writing an alias as its
name, has a solution; every solution lowers the type as `lowerType` does, and writes an alias used
sixteen or more levels down as the opaque type of its name. When every chain of aliases of the
scope has at most sixteen aliases, the cutoff plays no part: a deeper cutoff, writing aliases in
any way, lowers the type alike. -/
theorem lowerType_alias_depth (names : Names) (params : List String) (t : Ty) :
    (∃ F, Lowering.SolvesDepth names Lowering.opaqueAlias aliasDepth F) ∧
    (∀ F, Lowering.SolvesDepth names Lowering.opaqueAlias aliasDepth F →
      F 0 params t = lowerType names params t ∧
      ∀ d ps (A : Ident) a Xs, aliasDepth ≤ d → A.text ∉ ps → names.aliases.get? A.text = some a →
        F d ps (Ty.use A Xs) = .verbatim a.ident.text false) ∧
    (names.AliasChainsWithin aliasDepth → ∀ limit stop, aliasDepth ≤ limit →
      (Lowering.withCutoff names stop limit params).ty t = lowerType names params t) := by
  refine ⟨⟨_, Lowering.solvesDepth_iff.2 fun _ _ _ => rfl⟩, fun F hF => ⟨?_, ?_⟩, ?_⟩
  · rw [Lowering.solvesDepth_iff.1 hF 0 params t, Nat.sub_zero, lowerType, Lowering.withBudget_eq_withCutoff]
  · intro d ps A a Xs hd hA ha
    exact hF.alias_of_le hd hA ha Xs
  · intro hc limit stop hl
    rw [lowerType, Lowering.withBudget_eq_withCutoff]
    exact Lowering.ty_withCutoff_of_nestsWithin _ _ _ (Names.nestsWithin_of_aliasChainsWithin hc params t) _ hl

def nestAlias : Alias where
  ident := ⟨"Nest", false⟩
  params := []
  ty := Ty.use ⟨"Vec", false⟩ [Ty.use ⟨"Nest", false⟩ []]

def nestNames : Names where
  module := "crate"
  aliases := [("Nest", nestAlias)]

-- `Nest` expands sixteen times, and the alias met below is written as its name
example : lowerType nestNames [] (Ty.use ⟨"Nest", false⟩ []) =
    (fun r => TypeRef.named "std::vec::Vec" [r] false)^[16] (.verbatim "Nest" false) := by
  decide +kernel

def metersAlias : Alias where
  ident := ⟨"Meters", false⟩
  params := []
  ty := Ty.use ⟨"u32", false⟩ []

def spanAlias : Alias where
  ident := ⟨"Span", false⟩
  params := ["T"]
  ty := .tuple [Ty.use ⟨"T", false⟩ [], Ty.use ⟨"Meters", false⟩ []]

def spanNames : Names where
  module := "crate"
  aliases := [("Meters", metersAlias), ("Span", spanAlias)]

theorem spanMeters_uncut :
    spanNames.AliasChainsWithin aliasDepth ∧
    ∀ limit stop, aliasDepth ≤ limit →
      (Lowering.withCutoff spanNames stop limit []).ty (Ty.use ⟨"Span", false⟩ [Ty.use ⟨"Meters", false⟩ []]) =
        lowerType spanNames [] (Ty.use ⟨"Span", false⟩ [Ty.use ⟨"Meters", false⟩ []]) :=
  ⟨by decide, (lowerType_alias_depth spanNames [] _).2.2 (by decide)⟩

end TypeBridge.Source
