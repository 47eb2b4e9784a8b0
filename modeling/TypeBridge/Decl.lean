import TypeBridge.TypeRef
/-!
# Declarations

A `Decl` is everything the generator knows about one declared type: its path, what kind of
item it came from, where it was declared, its type parameters, its fields or unit variants,
and its supertypes. Supertypes are of two kinds: data supertypes (flattened or extended data
types) and interfaces (implemented traits).
-/

namespace TypeBridge

def sortedSet (xs : List String) : List String :=
  (xs.mergeSort fun a b => decide (a ≤ b)).eraseDups

/-- The kind of item a declaration came from. -/
inductive DeclKind where
  | struct
  | tupleStruct
  | unitStruct
  | enum
  | dataEnum
  | union
  | trait
  | array
  | shapeless
deriving BEq, DecidableEq, Repr, Inhabited

/-- Where an item was declared. -/
inductive DeclOrigin where
  | topLevel
  | inInitializer
  | inFunction
deriving BEq, DecidableEq, Repr, Inhabited

/-- A type parameter with its declared bounds. -/
structure TypeParam where
  name : String
  bounds : List TypeRef := []
deriving BEq, Repr, Inhabited

def TypeParam.asTypeRef (p : TypeParam) : TypeRef := .var p.name p.bounds false

/-- A field of a struct. `annotations` is kept sorted and without repeats. -/
structure Member where
  name : String
  ty : TypeRef
  annotations : List String := []
  serialName : Option String := none
deriving BEq, Repr, Inhabited

/-- A unit variant of an enum. -/
structure Variant where
  name : String
  serialName : Option String := none
deriving BEq, Repr, Inhabited

/-- A data supertype is flattened into or extended by the declaration; an interface is a trait
it implements. -/
inductive SupertypeKind where
  | data
  | interface
deriving BEq, DecidableEq, Repr, Inhabited

/-- A supertype of a declaration. -/
structure Supertype where
  ty : TypeRef
  kind : SupertypeKind
deriving BEq, Repr, Inhabited

/-- A declared type. -/
structure Decl where
  name : String
  kind : DeclKind := .struct
  origin : DeclOrigin := .topLevel
  typeParams : List TypeParam := []
  members : List Member := []
  variants : List Variant := []
  supertypes : List Supertype := []
deriving BEq, Repr, Inhabited

namespace Decl

def simple (d : Decl) : String := Path.simple d.name

def asTypeRef (d : Decl) : TypeRef := .named d.name (d.typeParams.map TypeParam.asTypeRef) false

def hasTypeParam (d : Decl) (name : String) : Bool := d.typeParams.any (·.name == name)

end Decl

end TypeBridge
