import TypeBridge.Rust.Token
/-!
# Rust syntax

The parts of parsed Rust source that declarations are read from: items (structs, enums,
unions, traits, `impl` blocks, modules, functions with the items of their bodies, constants
and statics with the items of their block initializers, `use` trees and type aliases), their
attributes, generics and field types. Everything else the parser checks and then forgets.
-/

namespace TypeBridge.Rust

/-- An identifier, with whether it was written raw (`r#type`). -/
structure Ident where
  name : String
  raw : Bool := false
deriving BEq, Repr, Inhabited

def Ident.text (i : Ident) : String := if i.raw then "r#" ++ i.name else i.name

mutual
/-- A type. -/
inductive Ty where
  | path (p : SynPath)
  | qualified
  | ref (elem : Ty)
  | paren (elem : Ty)
  | ptr (elem : Ty)
  | tuple (elems : List Ty)
  | array (elem : Ty)
  | slice (elem : Ty)
  | traitObject (lone brace : Bool)
  | implTrait (brace : Bool)
  | infer
  | bareFn (brace : Bool)
  | macroCall (brace : Bool)
  | never
  | verbatim (brace : Bool)
/-- A path: whether it starts with `::`, and its segments. -/
inductive SynPath where
  | mk (global : Bool) (segments : List Segment)
/-- A path segment with its arguments. -/
inductive Segment where
  | mk (ident : Ident) (args : SegmentArgs)
/-- The arguments of a path segment. -/
inductive SegmentArgs where
  | none
  | angle (args : List GenericArg)
  | paren (inputs : List Ty) (output : Option Ty)
/-- One generic argument. -/
inductive GenericArg where
  | type (t : Ty)
  | other
end

instance : Inhabited Ty := ⟨.infer⟩

def Ty.endsInBrace : Ty → Bool
  | .traitObject _ b | .implTrait b | .bareFn b | .macroCall b | .verbatim b => b
  | .ref e | .ptr e => e.endsInBrace
  | _ => false

instance : Inhabited SynPath := ⟨.mk false []⟩

namespace SynPath

def segments : SynPath → List Segment
  | .mk _ s => s

def global : SynPath → Bool
  | .mk g _ => g

end SynPath

def Segment.ident : Segment → Ident
  | .mk i _ => i

def Segment.args : Segment → SegmentArgs
  | .mk _ a => a

namespace SynPath

def text (p : SynPath) : String := "::".intercalate (p.segments.map (·.ident.text))

def asIdent? (p : SynPath) : Option Ident :=
  match p with
  | .mk false [.mk i .none] => some i
  | _ => none

def isIdent (p : SynPath) (s : String) : Bool :=
  match p.asIdent? with
  | some i => i.text == s
  | none => false

def isModStyle (p : SynPath) : Bool :=
  p.segments.all fun s => match s.args with | .none => true | _ => false

end SynPath

def SynPath.parenOutput? (p : SynPath) : Option Ty :=
  match p.segments.getLast? with
  | some (.mk _ (.paren _ out)) => out
  | _ => none

/-- A bound on a type parameter or a supertrait. -/
inductive Bound where
  | trait (maybe : Bool) (path : SynPath)
  | lifetime
  | verbatim (brace : Bool)
deriving Inhabited

def Bound.endsInBrace : Bound → Bool
  | .trait _ p => (p.parenOutput?.map Ty.endsInBrace).getD false
  | .lifetime => false
  | .verbatim b => b

def Bound.lastEndsInBrace (bs : List Bound) : Bool :=
  (bs.getLast?.map Bound.endsInBrace).getD false

/-- A type parameter with its inline bounds. -/
structure TypeParamSyn where
  ident : Ident
  bounds : List Bound
deriving Inhabited

/-- A `where` predicate on a type. -/
structure WherePred where
  bounded : Ty
  bounds : List Bound
deriving Inhabited

/-- Generic parameters and a `where` clause. -/
structure Generics where
  angled : Bool := false
  typeParams : List TypeParamSyn := []
  whereClause : Option (List WherePred) := none
deriving Inhabited

/-- The arguments of an attribute. -/
inductive AttrArgs where
  | none
  | list (tokens : List Tree)
  | value (str : Option String)
deriving Inhabited

/-- An attribute: its path and arguments. -/
structure Attr where
  path : SynPath
  args : AttrArgs
deriving Inhabited

/-- A field of a struct, enum variant or union. -/
structure Field where
  attrs : List Attr
  ident : Option Ident
  ty : Ty
deriving Inhabited

/-- The fields of a struct or variant. -/
inductive Fields where
  | named (fs : List Field)
  | unnamed (fs : List Field)
  | unit
deriving Inhabited

/-- An enum variant. -/
structure VariantSyn where
  attrs : List Attr
  ident : Ident
  fields : Fields
deriving Inhabited

/-- A `use` tree. -/
inductive UseTree where
  | path (ident : Ident) (tree : UseTree)
  | name (ident : Ident)
  | rename (ident rename : Ident)
  | glob
  | group (trees : List UseTree)
deriving Inhabited

/-- An item. Function bodies and block initializers keep only the items among their
statements. -/
inductive Item where
  | struct (attrs : List Attr) (ident : Ident) (generics : Generics) (fields : Fields)
  | enum (attrs : List Attr) (ident : Ident) (generics : Generics) (variants : List VariantSyn)
  | union (attrs : List Attr) (ident : Ident)
  | trait (ident : Ident) (generics : Generics) (supertraits : List Bound)
      (bodies : List (Ident × List Item))
  | impl (generics : Generics) (traitPath : Option (Bool × SynPath)) (selfTy : Ty)
      (bodies : List (Ident × List Item))
  | module (ident : Ident) (content : Option (List Item))
  | fn (ident : Ident) (body : List Item)
  | const (ident : Ident) (init : Option (List Item))
  | static (ident : Ident) (init : Option (List Item))
  | use (tree : UseTree)
  | alias (ident : Ident) (generics : Generics) (ty : Ty)
  | other
deriving Inhabited

/-- One nested meta item of an attribute's arguments. -/
inductive Meta where
  | path (p : SynPath)
  | list (p : SynPath) (tokens : List Tree)
  | nameValue (p : SynPath) (str : Option String)
deriving Inhabited

def Meta.toAttr : Meta → Attr
  | .path p => ⟨p, .none⟩
  | .list p ts => ⟨p, .list ts⟩
  | .nameValue p v => ⟨p, .value v⟩

end TypeBridge.Rust
