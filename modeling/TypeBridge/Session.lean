import TypeBridge.Generator
import TypeBridge.Source.Tree
/-!
# Sessions

A session drives one generator through a sequence of steps: reading sources, registering and
removing declarations, marking roots, adding rules and hooks, configuring, and asking for the
model, a resolution or the file.
-/

namespace TypeBridge

/-- Hooks given as templates, added in the order given. -/
structure HookTemplates where
  definitionPre : List (Option String) := []
  definitionPost : List (Option String) := []
  filePre : List (Option String) := []
  filePost : List (Option String) := []
  definitionName : Option (String × String) := none
  supertypeName : Option (String × String × Bool) := none

/-- Add hooks from templates after the present ones; a naming template replaces the present
naming hook. -/
def Hooks.addTemplates (h : Hooks) (t : HookTemplates) : Hooks :=
  { definitionPre := h.definitionPre ++ t.definitionPre.map Hooks.definitionTemplate
    definitionPost := h.definitionPost ++ t.definitionPost.map Hooks.definitionTemplate
    filePre := h.filePre ++ t.filePre.map Hooks.fileTemplate
    filePost := h.filePost ++ t.filePost.map Hooks.fileTemplate
    definitionName := match t.definitionName with
      | some (b, a) => Hooks.affixedName b a
      | none => h.definitionName
    supertypeName := match t.supertypeName with
      | some (b, a, m) => Hooks.affixedSupertypeName b a m
      | none => h.supertypeName }

/-- Settings to change; an absent one stays. -/
structure ConfigChange where
  moduleName : Option String := none
  enclosure : Option Enclosure := none
  indent : Option String := none
  exportDefinitions : Option Bool := none
  declare : Option Bool := none
  constrain : Option Bool := none
  timestamp : Option String := none
  fileName : Option String := none

/-- Apply the given settings. -/
def Config.change (c : Config) (ch : ConfigChange) : Config :=
  { c with
    moduleName := ch.moduleName.getD c.moduleName
    enclosure := ch.enclosure.getD c.enclosure
    indent := ch.indent.getD c.indent
    exportDefinitions := ch.exportDefinitions.getD c.exportDefinitions
    declare := ch.declare.getD c.declare
    constrain := ch.constrain.getD c.constrain
    timestamp := ch.timestamp <|> c.timestamp
    fileName := ch.fileName.getD c.fileName }

/-- One step of a session. -/
inductive Step where
  | register (d : Decl)
  | unregister (path : String)
  | root (path : String)
  | rule (r : Rule)
  | hooks (t : HookTemplates)
  | configure (ch : ConfigChange)
  | generate
  | resolve
  | model
  | source (module code : String)
  | tree (files : List (String × String)) (root : Option String)

/-- The answer to one step. -/
inductive Answer where
  | summary (decls : Nat) (roots : List String)
  | config (c : Config)
  | output (text : String)
  | resolution (r : Resolution)
  | listing (decls : List Decl) (roots : List String)
  | failed (e : GenerationError)
  | treeFailed (e : Source.TreeError)

namespace Generator

def summary (g : Generator) : Answer := .summary g.registry.size g.registry.roots

/-- Run one step. -/
def step (g : Generator) : Step → Answer × Generator
  | .register d => let g := g.registerDecl d; (g.summary, g)
  | .unregister p => let g := g.unregisterDecl p; (g.summary, g)
  | .root p => let g := g.addRoot p; (g.summary, g)
  | .rule r => let g := g.addRule r; (g.summary, g)
  | .hooks t => let g := { g with hooks := g.hooks.addTemplates t }; (g.summary, g)
  | .configure ch => let g := { g with config := g.config.change ch }; (.config g.config, g)
  | .generate =>
    (match g.generate with
      | .ok text => .output text
      | .error e => .failed e, g)
  | .resolve =>
    (match g.resolve with
      | .ok r => .resolution r
      | .error e => .failed e, g)
  | .model => (.listing g.registry.customDecls g.registry.roots, g)
  | .source module code => let g := g.addSource module code; (g.summary, g)
  | .tree files root =>
    match g.readTree files root with
    | (g, none) => (g.summary, g)
    | (g, some e) => (.treeFailed e, g)

end Generator

end TypeBridge
