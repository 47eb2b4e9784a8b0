import TypeBridge.Decl
import TypeBridge.Known
/-!
# The registry

A `Registry` holds declarations by canonical path, in the order their paths were first
registered, and the roots in the order they were marked. `Registry.lookup?` falls back, for a
crate-local path that matches nothing, to the one non-trait declaration of that simple name.
-/

namespace TypeBridge

/-- Declarations in first-registration order, and the annotated roots. -/
structure Registry where
  decls : List Decl := []
  roots : List String := []
deriving Repr, Inhabited

namespace Registry

def find? (r : Registry) (path : String) : Option Decl :=
  r.decls.find? (·.name == path)

def contains (r : Registry) (path : String) : Bool :=
  r.decls.any (·.name == path)

def size (r : Registry) : Nat := r.decls.length

def register (r : Registry) (d : Decl) : Registry :=
  if r.contains d.name then
    { r with decls := r.decls.map fun e => if e.name == d.name then d else e }
  else
    { r with decls := r.decls ++ [d] }

def unregister (r : Registry) (path : String) : Registry :=
  { decls := r.decls.filter (·.name != path), roots := r.roots.filter (· != path) }

def markRoot (r : Registry) (path : String) : Registry :=
  if r.roots.contains path then r else { r with roots := r.roots ++ [path] }

/-- The declaration a path refers to: the exact path, or for a crate-local path the unique
non-trait declaration with the same simple name. -/
def lookup? (r : Registry) (path : String) : Option Decl :=
  match r.find? path with
  | some d => some d
  | none =>
    if path.startsWith "crate::" then
      match r.decls.filter (fun d => d.simple == Path.simple path && d.kind != .trait) with
      | [d] => some d
      | _ => none
    else none

def family (path marker : String) (params : List String) : Decl :=
  let ps : List TypeParam := params.map fun p => { name := p }
  { name := path, kind := .shapeless, typeParams := ps,
    supertypes := [{ ty := .named marker (ps.map TypeParam.asTypeRef) false, kind := .interface }] }

/-- The built-in declarations, in registration order. -/
def builtins : List Decl :=
  [{ name := Known.array, kind := .array, typeParams := [{ name := "T" }] }] ++
  ([Known.btreeMap, "hashbrown::HashMap", "indexmap::IndexMap"].map
    fun m => family m Known.mapFamily ["K", "V"]) ++
  (["std::collections::BTreeSet", "hashbrown::HashSet", "indexmap::IndexSet"].map
    fun s => family s Known.setFamily ["T"]) ++
  (["std::collections::VecDeque", "std::collections::LinkedList", "std::collections::BinaryHeap",
    "thin_vec::ThinVec", "arrayvec::ArrayVec", "smallvec::SmallVec", "tinyvec::ArrayVec",
    "tinyvec::TinyVec"].map fun l => family l Known.collectionFamily ["T"])

/-- A registry holding the built-in declarations and no roots. -/
def withBuiltins : Registry :=
  builtins.foldl register {}

end Registry

end TypeBridge
