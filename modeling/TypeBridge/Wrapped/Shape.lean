import TypeBridge.Wrapped
import TypeBridge.Registry
/-!
# Collection shapes

Classification decides the shape of a wrapped type: by name for a few well-known paths, and
otherwise through the registry's declaration of its site, original name or own name. Scalars are
never classified, and a recorded shape is never changed.
-/

namespace TypeBridge

namespace CollectionShape

def ofName? (path : String) : Option CollectionShape :=
  if path == Known.pair then some .pair
  else if path == Known.vec then some .iterable
  else if path == Known.hashSet then some .set
  else if path == Known.btreeMap || path == Known.hashMap then some .map
  else none

def ofMarker? (path : String) : Option CollectionShape :=
  if path == Known.mapFamily then some .map
  else if path == Known.setFamily then some .set
  else if path == Known.collectionFamily then some .iterable
  else none

def ofSupertypes? (d : Decl) : Option CollectionShape :=
  d.supertypes.findSome? fun s => s.ty.canonical?.bind ofMarker?

end CollectionShape

namespace Wrapped

def mirror? (r : Registry) (w : Wrapped) : Option Decl :=
  ((w.site.bind TypeRef.canonical?).bind r.lookup?) <|>
  (w.original.bind r.lookup?) <|>
  (w.canonical?.bind r.lookup?)

def shapeIn (r : Registry) (w : Wrapped) : CollectionShape :=
  match w.canonical?.bind CollectionShape.ofName? with
  | some k => k
  | none =>
    match w.mirror? r with
    | none => .other
    | some d => if d.kind == .array then .array else (CollectionShape.ofSupertypes? d).getD .other

def classifyNode (r : Registry) (w : Wrapped) : Wrapped :=
  if w.isClassified || w.isPrimitive then w else { w with shape := some (w.shapeIn r) }

mutual
def classify (r : Registry) : Wrapped → Wrapped
  | ⟨ty, site, use, anns, ps, bs, orig, shape, rv⟩ =>
    classifyNode r ⟨ty, site, use, anns, classifyAll r ps, classifyAll r bs, orig, shape, rv⟩
def classifyAll (r : Registry) : List (String × Wrapped) → List (String × Wrapped)
  | [] => []
  | (k, w) :: rest => (k, classify r w) :: classifyAll r rest
end

def discoverable (w : Wrapped) : Bool :=
  !w.isPrimitive && w.isInstantiable && w.collection == .other

def discoveries (r : Registry) (w : Wrapped) : List String :=
  w.nodes.filterMap fun n =>
    if n.discoverable then (n.canonical?.bind r.lookup?).map (·.name) else none

end Wrapped

end TypeBridge
