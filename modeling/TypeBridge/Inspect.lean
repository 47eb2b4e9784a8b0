import TypeBridge.Discovery.State
import TypeBridge.Render.TypeText
/-!
# Inspecting one type

A `TypeQuery` asks how one type is seen at a use site against a registry: how it is wrapped
and classified, its text under custom rules, a scope and type variables, whether a property of
it is optional, which declared types it makes known, its wrapped arguments, the argument at
given positions and its bounds.
-/

namespace TypeBridge

/-- A question about one type. -/
structure TypeQuery where
  ty : TypeRef
  use : UseSite := .property
  site : Option TypeRef := none
  annotations : List String := []
  returnsVar : Bool := false
  registry : Registry := Registry.withBuiltins
  rules : List Rule := []
  scope : List String := []
  vars : List TypeRef := []
  classify : Bool := true
  indices : List Nat := []

/-- The answers about one type. -/
structure TypeReport where
  text : String
  nullable : Bool
  wrapped : Wrapped
  pending : Keyed String
  arguments : List TypeRef
  positions : List (Except ShapeError TypeRef)
  bounds : Except ShapeError (List String)

namespace TypeQuery

/-- The wrapper of the queried type at its use site: a property is its own site, a type
variable takes the given site. -/
def wrap (q : TypeQuery) : Wrapped :=
  let w := match q.use with
    | .property => Wrapped.property q.ty q.annotations
    | .typeVariable =>
      match q.site with
      | some s => Wrapped.typeVariableAt q.ty s
      | none => Wrapped.typeVariable q.ty
    | .enumValue => Wrapped.enumValue q.ty
    | .bound => Wrapped.bound q.ty
  if q.returnsVar then { w with returnsVar := true } else w

/-- Answer the query. The type variables are wrapped and keyed by display name (the empty name
for a type that has none), the first winning; when classifying, each variable and then the type
are classified on one discovery state, whose queue is reported. -/
def run (q : TypeQuery) : TypeReport :=
  let vars : Keyed Wrapped := q.vars.foldl (fun m v =>
    m.insertNew (v.display?.getD "") (Wrapped.typeVariable v)) []
  let (w, s) :=
    if q.classify then
      let s := vars.values.foldl (fun s v => (s.classifyAndEnqueue q.registry v).2) ({} : Discovery)
      s.classifyAndEnqueue q.registry q.wrap
    else (q.wrap, {})
  let ctx : TypeText.Context := { rules := q.rules, scope := q.scope, vars := vars.keys }
  { text := TypeText.render ctx w
    nullable := Rule.isNullable q.rules w
    wrapped := w
    pending := s.pending
    arguments := w.arguments.map (·.ty)
    positions := q.indices.map fun i => (w.parameterAt i).map (·.ty)
    bounds := w.bounds?.map (·.keys) }

end TypeQuery

end TypeBridge
