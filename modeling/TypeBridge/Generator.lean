import TypeBridge.Discovery.Resolve
import TypeBridge.Render.Emit
/-!
# Generators

A `Generator` holds the configuration, the registry and its roots, the interfaces of `impl`
blocks waiting for their type, the custom rules and the hooks. `Generator.resolve` resolves the
roots and fails with every diagnostic as soon as one is an error; `Generator.generate` writes the
file for a successful resolution.
-/

namespace TypeBridge

/-- Why a run of generation failed. -/
inductive GenerationError where
  | rejected (diagnostics : List Diagnostic)
  | internal (e : ShapeError)
deriving Repr, Inhabited

def GenerationError.message : GenerationError → String
  | .rejected ds => rejectedMessage ds
  | .internal e => "internal error: " ++ e.message

/-- The outcome of resolving the roots. -/
structure Resolution where
  types : List Target
  diagnostics : List Diagnostic
deriving Repr, Inhabited

/-- The state of a generator. -/
structure Generator where
  config : Config := {}
  registry : Registry := Registry.withBuiltins
  deferred : List (String × Supertype) := []
  rules : List Rule := []
  hooks : Hooks := {}
  clock : Nat := 0

namespace Generator

def byName (ts : List Target) : List Target :=
  ((Keyed.ofListLast (ts.map fun t => (t.simple, t))).mergeSort fun a b => decide (a.1 ≤ b.1)).map (·.2)

/-- Resolve every root and the types they reach. -/
def resolve (g : Generator) : Except GenerationError Resolution :=
  let (ts, s) := Discovery.resolveAll g.registry g.registry.roots [] {}
  if s.hasErrors then .error (.rejected s.diagnostics)
  else .ok { types := byName ts, diagnostics := s.diagnostics }

def emitter (g : Generator) : Emitter :=
  { config := g.config, rules := g.rules, hooks := g.hooks, clock := g.clock }

/-- The declaration file for the roots. -/
def generate (g : Generator) : Except GenerationError String := do
  let res ← g.resolve
  match g.emitter.document g.registry.roots res.types with
  | .ok text => .ok text
  | .error e => .error (.internal e)

def registerDecl (g : Generator) (d : Decl) : Generator := { g with registry := g.registry.register d }

def unregisterDecl (g : Generator) (path : String) : Generator :=
  { g with registry := g.registry.unregister path }

def addRoot (g : Generator) (path : String) : Generator := { g with registry := g.registry.markRoot path }

def addRule (g : Generator) (rule : Rule) : Generator := { g with rules := g.rules ++ [rule] }

end Generator

def Registry.customDecls (r : Registry) : List Decl :=
  r.decls.filter fun d => (Registry.builtins.find? (·.name == d.name)) != some d

end TypeBridge
