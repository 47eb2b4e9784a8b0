import TypeBridge.Rust.Parse
import TypeBridge.Source.Names
import TypeBridge.Text.Case
/-!
# Attributes

What the generator reads from attributes: the marker derive that makes a type a root, and the
`rename`, `tag`, `skip`, `flatten`, `rename_all` and `extends` entries of `serde` and `ts`
attributes.
-/

namespace TypeBridge.Rust

def Attr.metas (a : Attr) : List Meta :=
  match a.args with
  | .list ts => (metaItems ts).getD []
  | _ => []

def Attr.isSerdeOrTs (a : Attr) : Bool := a.path.isIdent "serde" || a.path.isIdent "ts"

/-- The string value of a meta item under `key`: `key = "value"`, or the `serialize` entry of
`key(...)`, searched the same way; `depth` bounds the nesting. -/
def stringValueWithin : Nat → Meta → String → Option String
  | 0, _, _ => none
  | depth + 1, m, key =>
    match m with
    | .nameValue p v => if p.isIdent key then v else none
    | .list p ts =>
      if p.isIdent key then
        (metaItems ts).bind fun nested =>
          nested.findSome? fun n => stringValueWithin depth n "serialize"
      else none
    | .path _ => none

def Meta.stringValue (m : Meta) (key : String) : Option String :=
  let size := match m with
    | .list _ ts => Tree.sizeOfList ts
    | _ => 0
  stringValueWithin (size + 2) m key

def Meta.metaPath : Meta → SynPath
  | .path p | .list p _ | .nameValue p _ => p

end TypeBridge.Rust

namespace TypeBridge.Source

open Rust

def markers : List String := ["tsgen_codegen::TypeScript", "tsgen_derive::TypeScript"]

/-- Whether a type carries the marker derive, given the names in scope. -/
def hasMarker (names : Names) (attrs : List Attr) : Bool :=
  attrs.any fun a =>
    a.path.isIdent "derive" &&
      match a.args with
      | .list ts =>
        match derivePaths ts with
        | some paths => paths.any fun p =>
          match p.segments with
          | [s] => (names.imports.get? s.ident.text).any markers.contains
          | _ => p.text.endsWith "::TypeScript"
        | none => false
      | _ => false

/-- What the attributes of a field or variant say. -/
structure MemberAttrs where
  rename : Option String := none
  skip : Bool := false
  flatten : Bool := false
  tags : List String := []
deriving Inhabited

/-- Read the attributes of a field or variant; a later `rename` wins. -/
def MemberAttrs.ofAttrs (attrs : List Attr) : MemberAttrs :=
  let readMeta (acc : MemberAttrs) (m : Meta) : MemberAttrs :=
    let acc := match m.stringValue "rename" with
      | some r => { acc with rename := some r }
      | none => acc
    let acc := match m.stringValue "tag" with
      | some t => { acc with tags := acc.tags ++ [t] }
      | none => acc
    let p := m.metaPath
    let acc := if p.isIdent "skip" || p.isIdent "skip_serializing" then { acc with skip := true }
      else acc
    if p.isIdent "flatten" then { acc with flatten := true } else acc
  let readAttr (acc : MemberAttrs) (a : Attr) : MemberAttrs :=
    let pathText := a.path.text
    let acc := if pathText != "doc" then { acc with tags := acc.tags ++ [pathText] } else acc
    if a.isSerdeOrTs then a.metas.foldl readMeta acc else acc
  attrs.foldl readAttr {}

/-- What the attributes of a struct or enum say. -/
structure ContainerAttrs where
  renameAll : Option String := none
  extended : List String := []
deriving Inhabited

/-- Read the attributes of a container; a later `rename_all` wins. -/
def ContainerAttrs.ofAttrs (attrs : List Attr) : ContainerAttrs :=
  let readMeta (isTs : Bool) (acc : ContainerAttrs) (m : Meta) : ContainerAttrs :=
    let acc := match m.stringValue "rename_all" with
      | some r => { acc with renameAll := some r }
      | none => acc
    if isTs then
      match m.stringValue "extends" with
      | some e => { acc with extended := acc.extended ++ [e] }
      | none => acc
    else acc
  let readAttr (acc : ContainerAttrs) (a : Attr) : ContainerAttrs :=
    a.metas.foldl (readMeta (a.path.isIdent "ts")) acc
  (attrs.filter Attr.isSerdeOrTs).foldl readAttr {}

/-- The serialized name the container's `rename_all` gives a member, when it differs from the
name; an unknown convention gives none. -/
def ContainerAttrs.rename (c : ContainerAttrs) (name : String) (variant : Bool) : Option String :=
  c.renameAll.bind fun rule =>
    (Text.CaseRule.ofName? rule).bind fun r =>
      let renamed := if variant then r.variantName name else r.fieldName name
      if renamed != name then some renamed else none

end TypeBridge.Source
