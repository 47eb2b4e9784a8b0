import TypeBridge.Discovery.Target
/-!
# Hooks

Hooks add text around each definition and the whole file, and rename definitions and the
supertypes of `extends` clauses. Besides arbitrary functions they can be templates, filled in by
plain replacement of their placeholders.
-/

namespace TypeBridge

/-- What a file hook sees. -/
structure FileScope where
  targets : List Target
  rootModules : List String
  modules : List String

/-- The hooks of a generator. By default definitions and supertypes are named by their simple
names. -/
structure Hooks where
  definitionPre : List (Target → Option String) := []
  definitionPost : List (Target → Option String) := []
  filePre : List (FileScope → Option String) := []
  filePost : List (FileScope → Option String) := []
  definitionName : String → String := Path.simple
  supertypeName : String → String → String := fun path _ => Path.simple path

namespace Hooks

def fill (pairs : List (String × String)) (template : String) : String :=
  pairs.foldl (fun s p => s.replace p.1 p.2) template

/-- A definition hook from a template; no template adds nothing. -/
def definitionTemplate (template : Option String) (t : Target) : Option String :=
  template.map <| fill
    [("\x7bcanonical\x7d", t.name), ("\x7bsimple\x7d", t.simple),
     ("\x7bmodule\x7d", Path.moduleOrEmpty t.name),
     ("\x7bkind\x7d", match t.kind with | .interface => "interface" | .enum => "enum"),
     ("\x7borigin\x7d", match t.origin with | .annotated => "annotated" | .discovered => "discovered"),
     ("\x7bmembers\x7d", toString t.members.length),
     ("\x7bvars\x7d", toString t.typeVariables.length),
     ("\x7bsupers\x7d", toString t.supertypes.length)]

def fileTemplate (template : Option String) (f : FileScope) : Option String :=
  template.map <| fill
    [("\x7bcount\x7d", toString f.targets.length),
     ("\x7bnames\x7d", ",".intercalate (f.targets.map (·.simple))),
     ("\x7broots\x7d", ",".intercalate f.rootModules),
     ("\x7bmodules\x7d", ",".intercalate f.modules)]

def affixedName (before after : String) (path : String) : String :=
  before ++ Path.simple path ++ after

def affixedSupertypeName (before after : String) (withModule : Bool) (path moduleName : String) :
    String :=
  before ++ (if withModule then moduleName ++ "." else "") ++ Path.simple path ++ after

end Hooks

end TypeBridge
