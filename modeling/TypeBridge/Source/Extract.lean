import TypeBridge.Generator
import TypeBridge.Source.Attrs
import TypeBridge.Source.Lower
/-!
# Declarations from Rust source

Every struct, enum, union and trait of a source file becomes a declaration under the path of
its scope, including items in function bodies and initializers; those with the marker derive
become roots. Fields become members or flattened supertypes, and the interface of an
`impl Trait for Type` waits until its type is declared.
-/

namespace TypeBridge.Source

open Rust

/-- Where items are declared: the path their names go under, and their origin. -/
structure Scope where
  path : String
  origin : DeclOrigin
deriving Inhabited

namespace Scope

def nameOf (s : Scope) (i : Ident) : String := s.path ++ "::" ++ i.name

def nested (s : Scope) (i : Ident) (o : DeclOrigin) : Scope :=
  { path := s.path ++ "::" ++ i.name, origin := if s.origin == .topLevel then o else s.origin }

end Scope

/-- The declaration of a struct. -/
def structDecl (names : Names) (scope : Scope) (attrs : List Attr) (i : Ident) (gen : Generics)
    (fields : Fields) : Decl :=
  let params := gen.paramNames
  let container := ContainerAttrs.ofAttrs attrs
  let kind : DeclKind := match fields with
    | .named _ => .struct
    | .unnamed _ => .tupleStruct
    | .unit => .unitStruct
  let named := match fields with
    | .named fs => fs
    | _ => []
  let step (acc : List Member × List Supertype) (f : Field) : List Member × List Supertype :=
    let (ms, ss) := acc
    let a := MemberAttrs.ofAttrs f.attrs
    if a.skip then (ms, ss)
    else
      let ty := lowerType names params f.ty
      if a.flatten then
        if hasFixedShape ty then (ms, ss ++ [⟨ty, .data⟩]) else (ms, ss)
      else match f.ident with
        | none => (ms, ss)
        | some fi =>
          (ms ++ [{ name := fi.name, ty, annotations := sortedSet a.tags,
                    serialName := a.rename <|> container.rename fi.name false }], ss)
  let (members, flattened) := named.foldl step ([], [])
  let extended := container.extended.filterMap fun e =>
    (parseType e).map fun t => (⟨lowerType names params t, .data⟩ : Supertype)
  { name := scope.nameOf i, kind, origin := scope.origin, typeParams := typeParamsOf gen,
    members, supertypes := flattened ++ extended }

/-- The declaration of an enum. -/
def enumDecl (scope : Scope) (attrs : List Attr) (i : Ident) (gen : Generics)
    (variants : List VariantSyn) : Decl :=
  let container := ContainerAttrs.ofAttrs attrs
  let unitOnly := variants.all fun v => match v.fields with | .unit => true | _ => false
  let kept := variants.filterMap fun v =>
    let a := MemberAttrs.ofAttrs v.attrs
    if a.skip then none
    else some ({ name := v.ident.name,
                 serialName := a.rename <|> container.rename v.ident.name true } : Variant)
  { name := scope.nameOf i, kind := if unitOnly then .enum else .dataEnum, origin := scope.origin,
    typeParams := typeParamsOf gen, variants := kept }

def traitDecl (names : Names) (scope : Scope) (i : Ident) (gen : Generics)
    (supertraits : List Bound) : Decl :=
  let supers := (supertraits.filterMap (supertraitRef names gen.paramNames)).filter
    fun t => t.canonical? != some Known.any
  { name := scope.nameOf i, kind := .trait, origin := scope.origin,
    typeParams := typeParamsOf gen, supertypes := supers.map fun t => ⟨t, .interface⟩ }

/-- The interface an `impl Trait for Type` block gives a type: the type's path and the trait
applied to its arguments. Negative impls and types other than paths give none. -/
def implSupertype (names : Names) (gen : Generics) (traitPath : Option (Bool × SynPath))
    (selfTy : Ty) : Option (String × Supertype) :=
  match traitPath, selfTy with
  | some (false, tp), .path sp =>
    tp.segments.getLast?.map fun _ =>
      let L := Lowering.withBudget names aliasDepth gen.paramNames
      let args := (L.lastArgs tp.segments).map (·.1)
      (names.resolvePath sp, ⟨.named (names.resolvePath tp) args false, .interface⟩)
  | _, _ => none

end TypeBridge.Source

namespace TypeBridge.Generator

open Source Rust

def declare (g : Generator) (d : Decl) (root : Bool) : Generator :=
  let g := g.registerDecl d
  if root then g.addRoot d.name else g

/-- Give waiting interfaces to the types that are now declared (once each); the others keep
waiting, in order. -/
def attachDeferred (g : Generator) : Generator :=
  let step (g : Generator) (entry : String × Supertype) : Generator :=
    let (target, sup) := entry
    match g.registry.lookup? target with
    | some d =>
      if d.supertypes.contains sup then g
      else g.registerDecl { d with supertypes := d.supertypes ++ [sup] }
    | none => { g with deferred := g.deferred ++ [(target, sup)] }
  g.deferred.foldl step { g with deferred := [] }

mutual

def readItems (names : Names) (scope : Scope) : List Item → Generator → Generator
  | [], g => g
  | item :: rest, g => readItems names scope rest (readItem names scope item g)

/-- Read one item. -/
def readItem (names : Names) (scope : Scope) : Item → Generator → Generator
  | .struct attrs i gen fields, g =>
    g.declare (structDecl names scope attrs i gen fields) (hasMarker names attrs)
  | .enum attrs i gen variants, g =>
    g.declare (enumDecl scope attrs i gen variants) (hasMarker names attrs)
  | .union attrs i, g =>
    g.declare { name := scope.nameOf i, kind := .union, origin := scope.origin }
      (hasMarker names attrs)
  | .trait i gen supertraits bodies, g =>
    readBodies names scope bodies (g.declare (traitDecl names scope i gen supertraits) false)
  | .impl gen traitPath selfTy bodies, g =>
    let g := match implSupertype names gen traitPath selfTy with
      | some entry => { g with deferred := g.deferred ++ [entry] }
      | none => g
    readBodies names scope bodies g
  | .module i (some content), g =>
    readItems (Names.ofItems (names.module ++ "::" ++ i.text) content)
      { path := scope.path ++ "::" ++ i.text, origin := scope.origin } content g
  | .fn i body, g =>
    if body.isEmpty then g
    else readItems (names.withItems body) (scope.nested i .inFunction) body g
  | .const i (some body), g =>
    if body.isEmpty then g
    else readItems (names.withItems body) (scope.nested i .inInitializer) body g
  | .static i (some body), g =>
    if body.isEmpty then g
    else readItems (names.withItems body) (scope.nested i .inInitializer) body g
  | _, g => g

def readBodies (names : Names) (scope : Scope) : List (Ident × List Item) → Generator → Generator
  | [], g => g
  | (i, body) :: rest, g =>
    let g := if body.isEmpty then g
      else readItems (names.withItems body) (scope.nested i .inFunction) body g
    readBodies names scope rest g

end

def readSource? (g : Generator) (module code : String) : Option Generator :=
  (parseFile code).map fun items =>
    (readItems (Names.ofItems module items) { path := module, origin := .topLevel } items g).attachDeferred

def addSource (g : Generator) (module code : String) : Generator :=
  (g.readSource? module code).getD g

end TypeBridge.Generator
