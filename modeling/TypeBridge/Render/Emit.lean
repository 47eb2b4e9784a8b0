import TypeBridge.Render.Config
import TypeBridge.Render.TypeText
import TypeBridge.Render.Hooks
/-!
# Emission

The text of a declaration file: a `/* generated @ … */` comment, the file hooks, the enclosure
and each emitted target in the order of simple names, with its definition hooks. An interface
lists its type parameters, supertypes and properties; an enum its values in byte order.
-/

namespace TypeBridge

/-- What emission depends on besides the targets. -/
structure Emitter where
  config : Config := {}
  rules : List Rule := []
  hooks : Hooks := {}
  clock : Nat

namespace Emitter

def exportWord (e : Emitter) : String := if e.config.exportDefinitions then "export " else ""

def opening (e : Emitter) : String :=
  let lead := e.exportWord ++ (if e.config.declare then "declare " else "")
  match e.config.enclosure with
  | .moduleBlock => lead ++ "module \"" ++ e.config.moduleName ++ "\" \x7b\n"
  | .namespaceBlock => lead ++ "namespace " ++ e.config.moduleName ++ " \x7b\n"
  | .bare => ""

def typeParameter (ctx : TypeText.Context) (name : String) (w : Wrapped) :
    Except ShapeError String := do
  let bounds ← w.bounds?
  let texts := (bounds.values.filter fun b => b.canonical? != some Known.any).map (TypeText.render ctx)
  pure (if texts.isEmpty then name else name ++ " extends " ++ " & ".intercalate texts)

def supertype (e : Emitter) (ctx : TypeText.Context) (a : AppliedType) : String :=
  let name := e.hooks.supertypeName a.name e.config.moduleName
  if a.arguments.isEmpty then name
  else name ++ "<" ++ ", ".intercalate (a.arguments.map (TypeText.render ctx)) ++ ">"

def propertyLine (e : Emitter) (ctx : TypeText.Context) (m : TargetMember) : String :=
  e.config.baseIndent ++ e.config.indent ++ m.jsonName ++ (if Rule.isNullable e.rules m.ty then "?" else "") ++
    ": " ++ TypeText.render ctx m.ty ++ ";\n"

def propertyLines (e : Emitter) (ctx : TypeText.Context) (ms : List TargetMember) : List String :=
  ms.filterMap fun m =>
    match m.role with
    | .property => some (e.propertyLine ctx m)
    | .enumValue => none

/-- The text of an interface. -/
def interfaceText (e : Emitter) (scope : List String) (t : Target) : Except ShapeError String := do
  let base := e.config.baseIndent
  let ctx : TypeText.Context := { rules := e.rules, scope, vars := t.typeVariables.keys }
  let params ← t.typeVariables.mapM fun p => typeParameter ctx p.1 p.2
  let header := base ++ e.exportWord ++ "interface " ++ e.hooks.definitionName t.name ++
    (if params.isEmpty then "" else "<" ++ ", ".intercalate params ++ ">") ++
    (if t.supertypes.isEmpty then ""
     else " extends " ++ ", ".intercalate (t.supertypes.map (e.supertype ctx)))
  pure (header ++ " \x7b\n" ++ String.join (e.propertyLines ctx t.members.values) ++ base ++ "\x7d\n")

def enumText (e : Emitter) (t : Target) : String :=
  let base := e.config.baseIndent
  let values := (t.members.values.map TargetMember.jsonName).mergeSort fun a b => decide (a ≤ b)
  let body := values.map fun v => base ++ e.config.indent ++ v ++ " = '" ++ v ++ "'"
  base ++ e.exportWord ++ "enum " ++ e.hooks.definitionName t.name ++ " \x7b\n" ++
    (if body.isEmpty then "" else ",\n".intercalate body ++ "\n") ++ base ++ "\x7d\n"

def hookTexts {α : Type} (hooks : List (α → Option String)) (x : α) : String :=
  String.join (hooks.filterMap fun h => h x)

def definition (e : Emitter) (scope : List String) (t : Target) : Except ShapeError String := do
  let body ← match t.kind with
    | .interface => e.interfaceText scope t
    | .enum => pure (e.enumText t)
  pure (hookTexts e.hooks.definitionPre t ++ body ++ hookTexts e.hooks.definitionPost t)

def emits (e : Emitter) (roots : List String) (t : Target) : Bool :=
  !e.config.constrain || (sortedSet (roots.map Path.moduleOrEmpty)).any (Path.within (Path.moduleOrEmpty t.name))

/-- The whole file for the resolved targets (sorted by simple name) and the roots. Only the
targets within a root's module are emitted when the configuration constrains them. -/
def document (e : Emitter) (roots : List String) (types : List Target) :
    Except ShapeError String := do
  let scope := types.map (·.simple)
  let rootModules := sortedSet (roots.map Path.moduleOrEmpty)
  let emitted := types.filter (e.emits roots)
  let file : FileScope :=
    { targets := emitted, rootModules, modules := sortedSet (emitted.map (Path.moduleOrEmpty ·.name)) }
  let defs ← emitted.mapM (e.definition scope)
  pure ("/* generated @ " ++ e.config.stamp e.clock ++ " */\n" ++ hookTexts e.hooks.filePre file ++
    e.opening ++ String.join defs ++
    (if e.config.enclosure == .bare then "" else "\x7d\n") ++ hookTexts e.hooks.filePost file)

end Emitter

end TypeBridge
