import TypeBridge.Discovery.State
/-!
# Targets

A `Target` is a declaration selected for generation. `Target.assemble` builds it, or records
why it cannot be: a struct with named fields or an enum of unit variants, declared at top level,
whose data supertypes other than the top type are all declared. While it wraps type variables,
properties and supertype arguments it queues every declared type they use.
-/

namespace TypeBridge

/-- What a target is emitted as. -/
inductive TargetKind where
  | interface
  | enum
deriving BEq, DecidableEq, Repr, Inhabited

/-- Whether a target was annotated or discovered. -/
inductive TargetOrigin where
  | annotated
  | discovered
deriving BEq, DecidableEq, Repr, Inhabited

/-- A property of an interface or a value of an enum. -/
inductive MemberRole where
  | property
  | enumValue
deriving BEq, DecidableEq, Repr, Inhabited

/-- A member of a target. -/
structure TargetMember where
  role : MemberRole
  name : String
  ty : Wrapped
  serialName : Option String
deriving Repr, Inhabited

def TargetMember.jsonName (m : TargetMember) : String :=
  match m.serialName with
  | some s => s.replace "$" "\\$"
  | none => m.name

/-- A supertype with the arguments the subtype gives it. -/
structure AppliedType where
  name : String
  arguments : List Wrapped
  resolution : Keyed TypeRef
deriving Repr, Inhabited

/-- A declaration selected for generation. -/
structure Target where
  name : String
  kind : TargetKind
  origin : TargetOrigin
  members : Keyed TargetMember
  typeVariables : Keyed Wrapped
  supertypes : List AppliedType
deriving Repr, Inhabited

namespace Target

def simple (t : Target) : String := Path.simple t.name

def dataSupertypes (r : Registry) (d : Decl) : List (TypeRef × Option Decl) :=
  (d.supertypes.filter fun s => s.kind == .data && s.ty.canonical? != some Known.any).map
    fun s => (s.ty, s.ty.canonical?.bind r.lookup?)

def ineligibility? (r : Registry) (d : Decl) : Option Rejection :=
  if !(d.kind == .struct || d.kind == .enum) then some (.notDataShape d.name)
  else match d.origin with
    | .inInitializer => some (.inInitializer d.name)
    | .inFunction => some (.inFunction d.name)
    | .topLevel =>
      ((dataSupertypes r d).find? (·.2.isNone)).map fun p => .undeclaredSupertype d.name p.1.render

def wrapTypeVariables (r : Registry) : List TypeParam → Keyed Wrapped → Discovery → Keyed Wrapped × Discovery
  | [], acc, s => (acc, s)
  | p :: ps, acc, s =>
    let (w, s) := s.classifyAndEnqueue r (Wrapped.typeVariable p.asTypeRef)
    wrapTypeVariables r ps (acc.insertNew p.name w) s

def propertyType (d : Decl) (m : Member) : Wrapped :=
  let w := Wrapped.property m.ty m.annotations
  if (w.display?.map d.hasTypeParam).getD false then { w with returnsVar := true } else w

def wrapProperties (r : Registry) (d : Decl) :
    List Member → Keyed TargetMember → Discovery → Keyed TargetMember × Discovery
  | [], acc, s => (acc, s)
  | m :: ms, acc, s =>
    let (w, s) := s.classifyAndEnqueue r (propertyType d m)
    wrapProperties r d ms (acc.upsert m.name ⟨.property, m.name, w, m.serialName⟩) s

/-- Wrap the arguments given to a supertype. An argument at the position of one of the
supertype's parameters is wrapped at that parameter and recorded as its resolution. -/
def supertypeArgs (r : Registry) (params : List TypeParam) :
    List TypeRef → List Wrapped × Keyed TypeRef → Discovery → (List Wrapped × Keyed TypeRef) × Discovery
  | [], acc, s => (acc, s)
  | a :: as, (ws, res), s =>
    match params with
    | p :: ps =>
      let (w, s) := s.classifyAndEnqueue r (Wrapped.typeVariableAt a p.asTypeRef)
      supertypeArgs r ps as (ws ++ [w], res.upsert p.name a) s
    | [] =>
      let (w, s) := s.classifyAndEnqueue r (Wrapped.typeVariable a)
      supertypeArgs r [] as (ws ++ [w], res) s

def structSupertypes (r : Registry) (d : Decl) : List (TypeRef × Decl) :=
  (dataSupertypes r d).filterMap fun p =>
    p.2.bind fun sup => if sup.kind == .struct && sup.name != d.name then some (p.1, sup) else none

def applySupertypes (r : Registry) :
    List (TypeRef × Decl) → List AppliedType → Discovery → List AppliedType × Discovery
  | [], acc, s => (acc, s)
  | (ty, sup) :: rest, acc, s =>
    let s := s.enqueue sup.name
    let ((ws, res), s) := supertypeArgs r sup.typeParams ty.args ([], []) s
    applySupertypes r rest (acc ++ [⟨sup.name, ws, res⟩]) s

def enumValues (d : Decl) : Keyed TargetMember :=
  Keyed.ofListLast (d.variants.map fun v =>
    (v.name, ⟨.enumValue, v.name, Wrapped.enumValue (TypeRef.simpleRef d.name), v.serialName⟩))

/-- Build the target of a declaration, or record why it cannot be generated. The pair type is
never generated and leaves no diagnostic. -/
def assemble (r : Registry) (d : Decl) (s : Discovery) : Option Target × Discovery :=
  if d.name == Known.pair then (none, s)
  else match ineligibility? r d with
    | some rej => (none, s.reject rej)
    | none =>
      let origin := if s.mode == .explicitRoot then TargetOrigin.annotated else .discovered
      if d.kind == .enum then (some ⟨d.name, .enum, origin, enumValues d, [], []⟩, s)
      else
        let (vars, s) := wrapTypeVariables r d.typeParams [] s
        let (members, s) := wrapProperties r d d.members [] s
        let (sups, s) := applySupertypes r (structSupertypes r d) [] s
        (some ⟨d.name, .interface, origin, members, vars, sups⟩, s)

end Target

end TypeBridge
