import TypeBridge.Decl
import TypeBridge.Source.Names
/-!
# Types of Rust source as type expressions

A written type becomes a `TypeRef`: paths resolve to canonical names, `Option` makes its content
nullable, transparent wrappers give their content, arrays and tuples have their own forms, and
type parameters in scope are variables. A type alias is expanded where it is used; one nested
sixteen deep stays opaque.
-/

namespace TypeBridge.Rust

def Generics.paramNames (g : Generics) : List String :=
  g.typeParams.map (·.ident.text)

end TypeBridge.Rust

namespace TypeBridge.Source

open Rust

def transparentWrappers : List String :=
  ["std::boxed::Box", "std::rc::Rc", "std::sync::Arc", "std::borrow::Cow", "std::cell::Cell",
   "std::cell::RefCell"]

def inlineArrayVecs : List String :=
  ["smallvec::SmallVec", "arrayvec::ArrayVec", "tinyvec::ArrayVec", "tinyvec::TinyVec"]

def shapelessTraits : List String :=
  ["Any", "Clone", "Copy", "Debug", "Default", "Deserialize", "DeserializeOwned", "Display", "Eq",
   "Hash", "Ord", "PartialEq", "PartialOrd", "Send", "Serialize", "Sized", "Sync", "ToString",
   "TypeScript", "Unpin"]

def openObjects : List String :=
  [Known.hashMap, Known.btreeMap, "hashbrown::HashMap", "indexmap::IndexMap", "serde_json::Map",
   "serde_json::Value"]

def aliasDepth : Nat := 16

def arrayOf (elem : TypeRef) : TypeRef :=
  match elem with
  | .named n [] false =>
    match Known.primitiveArray? n with
    | some arr => TypeRef.simpleRef arr
    | none => .named Known.array [elem] false
  | _ => .named Known.array [elem] false

/-- What lowering a type needs: the names in scope, the type parameters in scope, and how an
alias applied to lowered arguments expands. -/
structure Lowering where
  names : Names
  params : List String
  expand : Alias → List TypeRef → TypeRef

namespace Lowering

/-- A path type from its path and lowered arguments: a type parameter, an alias, `Option`,
`str`, a transparent wrapper, an inline-array vector, or a named type. -/
def named (L : Lowering) (p : SynPath) (args : List (TypeRef × Option TypeRef)) : TypeRef :=
  let plain := args.map (·.1)
  let single := match p.segments with
    | [s] => some s.ident.text
    | _ => none
  match single.filter L.params.contains with
  | some v => .var v [] false
  | none =>
    match single.bind L.names.aliases.get? with
    | some a => L.expand a plain
    | none =>
      let canonical := L.names.resolvePath p
      if canonical == optionPath then
        match plain.head? with
        | some inner => inner.withNullable true
        | none => .wildcard true
      else if canonical == "str" then TypeRef.simpleRef Known.string
      else if transparentWrappers.contains canonical then
        plain.head?.getD (.wildcard false)
      else if inlineArrayVecs.contains canonical then
        .named canonical (args.map fun (t, elem) => elem.getD t) false
      else .named canonical plain false

mutual

/-- A written type as a type expression. -/
def ty (L : Lowering) : Ty → TypeRef
  | .path p => L.path p
  | .ref e => L.ty e
  | .paren e => L.ty e
  | .ptr e => L.ty e
  | .tuple [] => TypeRef.simpleRef Known.unit
  | .tuple [a, b] => .named Known.pair [L.ty a, L.ty b] false
  | .tuple es => .verbatim (toString es.length ++ "-tuple") false
  | .array e => arrayOf (L.ty e)
  | .slice e => arrayOf (L.ty e)
  | .traitObject _ _ => .wildcard false
  | .implTrait _ => .wildcard false
  | .infer => .wildcard false
  | .bareFn _ => .verbatim "fn" false
  | .macroCall _ => .verbatim "macro" false
  | .qualified => .verbatim "unsupported" false
  | .never => .verbatim "unsupported" false
  | .verbatim _ => .verbatim "unsupported" false

def path (L : Lowering) : SynPath → TypeRef
  | .mk g segs =>
    let args := L.lastArgs segs
    L.named (.mk g segs) args

def lastArgs (L : Lowering) : List Segment → List (TypeRef × Option TypeRef)
  | [] => []
  | [.mk _ a] => L.segmentArgs a
  | _ :: rest => L.lastArgs rest

def segmentArgs (L : Lowering) : SegmentArgs → List (TypeRef × Option TypeRef)
  | .angle as => L.genericArgs as
  | .none => []
  | .paren _ _ => []

def genericArgs (L : Lowering) : List GenericArg → List (TypeRef × Option TypeRef)
  | [] => []
  | .type t :: rest => (L.ty t, L.arrayElem t) :: L.genericArgs rest
  | .other :: rest => L.genericArgs rest

def arrayElem (L : Lowering) : Ty → Option TypeRef
  | .array e => some (L.ty e)
  | _ => none

end

def withBudget (names : Names) : Nat → List String → Lowering
  | 0, params => { names, params, expand := fun a _ => .verbatim a.ident.text false }
  | n + 1, params =>
    { names, params, expand := fun a args =>
        ((withBudget names n a.params).ty a.ty).substitute (Keyed.ofListLast (a.params.zip args)) }

end Lowering

def lowerType (names : Names) (params : List String) (t : Ty) : TypeRef :=
  (Lowering.withBudget names aliasDepth params).ty t

/-- A supertrait as a type expression: none for `?Trait`, lifetimes and bounds kept as tokens;
any type for a shapeless trait; else the trait's path applied to its type arguments. -/
def supertraitRef (names : Names) (params : List String) : Bound → Option TypeRef
  | .trait false p =>
    match p.segments.getLast? with
    | none => none
    | some last =>
      if shapelessTraits.contains last.ident.text then some (TypeRef.simpleRef Known.any)
      else
        let L := Lowering.withBudget names aliasDepth params
        some (.named (names.resolvePath p) ((L.lastArgs p.segments).map (·.1)) false)
  | _ => none

def paramBoundRef : Bound → Option TypeRef
  | .trait false _ => some (TypeRef.simpleRef Known.any)
  | _ => none

def typeParamsOf (g : Generics) : List TypeParam :=
  g.typeParams.map fun p =>
    let fromWhere := (g.whereClause.getD []).flatMap fun pred =>
      match pred.bounded with
      | .path q => if q.asIdent? == some p.ident then pred.bounds else []
      | _ => []
    { name := p.ident.text, bounds := (p.bounds ++ fromWhere).filterMap paramBoundRef }

def hasFixedShape (t : TypeRef) : Bool :=
  !t.isVar && !t.isWildcard && !(t.canonical?.any openObjects.contains)

end TypeBridge.Source
