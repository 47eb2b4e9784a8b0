import TypeBridge.Keyed
import TypeBridge.Path
import TypeBridge.Known
import TypeBridge.Rust.Syntax
/-!
# Names in Rust source

What a name written in a module or block stands for: a single name resolves through the
imports, the prelude, the scalars and then the current module; a longer path anchors its first
segment the same way.
-/

namespace TypeBridge.Source

open Rust

def optionPath : String := "std::option::Option"

def prelude : List (String × String) :=
  [("String", Known.string), ("Vec", Known.vec), ("Option", optionPath),
   ("Box", "std::boxed::Box")]

/-- A type alias as written: its name, type parameters and aliased type. -/
structure Alias where
  ident : Ident
  params : List String
  ty : Ty
deriving Inhabited

/-- The names visible in a scope. -/
structure Names where
  module : String
  imports : Keyed String := []
  aliases : Keyed Alias := []
  localModules : List String := []
deriving Inhabited

/-- The entries a `use` tree brings in, under the path segments before it; a later entry for
the same name replaces an earlier one. `self` in a group names the group's path; globs bring
in nothing that can be known. -/
def UseTree.imports (acc : Keyed String) (prefixSegs : List String) : UseTree → Keyed String
  | .path i t => UseTree.imports acc (prefixSegs ++ [i.text]) t
  | .name i =>
    if i.text == "self" then
      match prefixSegs.getLast? with
      | some last => acc.upsert last ("::".intercalate prefixSegs)
      | none => acc
    else acc.upsert i.text ("::".intercalate (prefixSegs ++ [i.text]))
  | .rename i r => acc.upsert r.text ("::".intercalate (prefixSegs ++ [i.text]))
  | .glob => acc
  | .group ts => go acc ts
where
  go (acc : Keyed String) : List UseTree → Keyed String
    | [] => acc
    | t :: rest => go (UseTree.imports acc prefixSegs t) rest

def stdPath (path : String) : String :=
  if path.startsWith "core::" then "std::" ++ (path.drop 6).toString
  else if path.startsWith "alloc::" then "std::" ++ (path.drop 7).toString
  else path

namespace Names

/-- A path anchored at the crate root: `crate` paths as they are, `self` and inline-module
paths under the current module, and `super` paths under its parents (never above the crate).
Any other path is taken to be absolute already. -/
def absolute (n : Names) (path : String) : String :=
  let moduleSegs := Path.segments n.module
  match Path.segments path with
  | "crate" :: _ => path
  | "self" :: rest => "::".intercalate (moduleSegs ++ rest)
  | "super" :: rest =>
    let supers := (rest.takeWhile (· == "super")).length + 1
    let rest := rest.dropWhile (· == "super")
    let kept := moduleSegs.take (max 1 (moduleSegs.length - supers))
    "::".intercalate (kept ++ rest)
  | first :: rest =>
    if n.localModules.contains first then "::".intercalate (moduleSegs ++ first :: rest)
    else path
  | [] => path

/-- What one item of a scope adds to what its items bring in: `use` entries as written,
aliases, and module names. -/
def collect (acc : Keyed String × Keyed Alias × List String) (item : Item) :
    Keyed String × Keyed Alias × List String :=
  let (uses, aliases, mods) := acc
  match item with
  | .use t => (UseTree.imports uses [] t, aliases, mods)
  | .alias i gen ty =>
    (uses, aliases.upsert i.text ⟨i, gen.typeParams.map (·.ident.text), ty⟩, mods)
  | .module i _ => (uses, aliases, if mods.contains i.text then mods else mods ++ [i.text])
  | _ => (uses, aliases, mods)

def withItems (n : Names) (items : List Item) : Names :=
  let (uses, aliases, mods) := items.foldl collect ([], n.aliases, n.localModules)
  let n := { n with aliases := aliases, localModules := mods }
  { n with imports := uses.foldl (fun acc (name, path) => acc.upsert name (n.absolute path)) n.imports }

def ofItems (module : String) (items : List Item) : Names :=
  ({ module := module } : Names).withItems items

/-- What a single name stands for: an import, a prelude name, a scalar or `str`, or a
declaration of the current module. -/
def resolveIdent (n : Names) (ident : String) : String :=
  match n.imports.get? ident with
  | some path => path
  | none =>
    match prelude.lookup ident with
    | some path => path
    | none =>
      if Known.isPrimitive ident || ident == "str" then ident else n.module ++ "::" ++ ident

/-- The canonical path a written path stands for. -/
def resolvePath (n : Names) (p : SynPath) : String :=
  match p.segments.map (·.ident.text) with
  | [] => ""
  | [first] => stdPath (n.resolveIdent first)
  | first :: rest =>
    let head := match n.imports.get? first with
      | some path => path
      | none => n.absolute first
    stdPath (head ++ "::" ++ "::".intercalate rest)

end Names

end TypeBridge.Source
