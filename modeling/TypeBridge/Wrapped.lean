import TypeBridge.Keyed
import TypeBridge.TypeRef
import TypeBridge.Known
import TypeBridge.Diagnostic
/-!
# Wrapped types

A `Wrapped` is one occurrence of a type at a use site, with its arguments wrapped in turn and
keyed by display name, the first argument with a name winning. The declaration site is the type
as written where it was declared; the collection shape is filled in by classification, once.
-/

namespace TypeBridge

/-- Where a wrapped type occurs. -/
inductive UseSite where
  | property
  | typeVariable
  | enumValue
  | bound
deriving BEq, DecidableEq, Repr, Inhabited

/-- The collection shape that decides how a type is written. -/
inductive CollectionShape where
  | map
  | set
  | iterable
  | pair
  | array
  | other
deriving BEq, DecidableEq, Repr, Inhabited

/-- One occurrence of a type at a use site, with its arguments and bounds wrapped in turn. -/
structure Wrapped where
  ty : TypeRef
  site : Option TypeRef
  use : UseSite
  annotations : List String
  parameters : List (String × Wrapped)
  bounds : List (String × Wrapped)
  original : Option String
  shape : Option CollectionShape := none
  returnsVar : Bool := false
deriving Repr, Inhabited

def TypeRef.original? : TypeRef → Option String
  | .named n _ _ => some n
  | .var _ bs _ =>
    match bs with
    | b :: _ => b.canonical?
    | [] => none
  | _ => none

namespace Wrapped

mutual
/-- Wrap `ty` at a use site with its declaration site and annotations. Each argument is wrapped
as a type variable at the site's argument of the same position, when there is one; a type
variable wraps its declared bounds. -/
def build (site : Option TypeRef) (use : UseSite) (annotations : List String) :
    TypeRef → Wrapped
  | .named n args b =>
    { ty := .named n args b, site, use, annotations,
      parameters := Keyed.ofListFirst (buildArgs ((site.map TypeRef.args).getD []) args),
      bounds := [], original := site.bind TypeRef.original? }
  | .var n bs b =>
    { ty := .var n bs b, site, use, annotations, parameters := [],
      bounds := if use == .typeVariable then Keyed.ofListFirst (buildBounds bs) else [],
      original := site.bind TypeRef.original? }
  | t =>
    { ty := t, site, use, annotations, parameters := [], bounds := [],
      original := site.bind TypeRef.original? }
def buildArgs : List TypeRef → List TypeRef → List (String × Wrapped)
  | _, [] => []
  | s :: ss, a :: as => (a.key, build (some s) .typeVariable [] a) :: buildArgs ss as
  | [], a :: as => (a.key, build none .typeVariable [] a) :: buildArgs [] as
def buildBounds : List TypeRef → List (String × Wrapped)
  | [] => []
  | b :: bs => (b.key, build none .bound [] b) :: buildBounds bs
end

def property (ty : TypeRef) (annotations : List String) : Wrapped :=
  build (some ty) .property annotations ty

def typeVariable (ty : TypeRef) : Wrapped := build none .typeVariable [] ty

def typeVariableAt (ty site : TypeRef) : Wrapped := build (some site) .typeVariable [] ty

def enumValue (ty : TypeRef) : Wrapped := build none .enumValue [] ty

def bound (ty : TypeRef) : Wrapped := build none .bound [] ty

def canonical? (w : Wrapped) : Option String := w.ty.canonical?

def display? (w : Wrapped) : Option String := w.ty.display?

def isInstantiable (w : Wrapped) : Bool := w.canonical?.isSome && w.use != .enumValue

def isPrimitive (w : Wrapped) : Bool :=
  match w.canonical? with
  | some c => Known.isPrimitive c
  | none => false

def isClassified (w : Wrapped) : Bool := w.shape.isSome

def collection (w : Wrapped) : CollectionShape := w.shape.getD .other

def describe (w : Wrapped) : String := w.ty.render

/-- The wrapped argument at a position: the parameter stored under that argument's key. -/
def parameterAt (w : Wrapped) (index : Nat) : Except ShapeError Wrapped :=
  let args := w.ty.args
  if args.isEmpty then .error (.noParameters w.describe)
  else match args[index]? with
    | none => .error (.indexOutOfRange w.describe index args.length)
    | some a =>
      match Keyed.get? w.parameters a.key with
      | some p => .ok p
      | none => .error (.missingParameter w.describe a.key)

def arguments (w : Wrapped) : List Wrapped :=
  w.ty.args.filterMap fun a => Keyed.get? w.parameters a.key

def bounds? (w : Wrapped) : Except ShapeError (Keyed Wrapped) :=
  if w.use == .typeVariable then .ok w.bounds else .error (.boundsOnNonVariable w.describe)

mutual
def nodes : Wrapped → List Wrapped
  | w@⟨_, _, _, _, ps, bs, _, _, _⟩ => w :: (nodesAll ps ++ nodesAll bs)
def nodesAll : List (String × Wrapped) → List Wrapped
  | [] => []
  | (_, w) :: rest => nodes w ++ nodesAll rest
end

end Wrapped

end TypeBridge
