import TypeBridge.Wrapped
/-!
# Custom rules

A custom rule writes a fixed text for the types it matches, and says whether a property of
such a type is optional. A rule matches by canonical path (`uuid::Uuid`) or by an annotation
of the property (the path of a field attribute, or a `#[ts(tag = "…")]` value). Custom rules
are tried in the order they were added, before every built-in rule.
-/

namespace TypeBridge

/-- How a rule decides whether a property is optional. -/
inductive Nullability where
  | nullable
  | nonNull
  | inherit
deriving BEq, DecidableEq, Repr, Inhabited

/-- What a rule matches. -/
inductive RuleTarget where
  | path (canonical : String)
  | tagged (tag : String)
deriving BEq, Repr, Inhabited

/-- A custom rule. -/
structure Rule where
  target : RuleTarget
  text : String
  nullability : Nullability := .inherit
deriving BEq, Repr, Inhabited

namespace Rule

def applies (rule : Rule) (w : Wrapped) : Bool :=
  match rule.target with
  | .path c => w.canonical? == some c
  | .tagged tag => w.annotations.contains tag

def firstMatch? (rules : List Rule) (w : Wrapped) : Option Rule :=
  rules.find? (·.applies w)

def isNullable (rules : List Rule) (w : Wrapped) : Bool :=
  match ((firstMatch? rules w).map (·.nullability) : Option Nullability) with
  | some .nullable => true
  | some .nonNull => false
  | _ => w.ty.nullable

end Rule

end TypeBridge
