import TypeBridge.Render.Rule
/-!
# Type text

The TypeScript text of a wrapped type. At each node the first that applies writes it: a custom
rule, the wildcard, a name in scope, a field's own parameter, a type variable, the scalar table, a
collection shape, and last the unknown-type text. Arguments are read through the wrapper's keyed
parameters.
-/

namespace TypeBridge

namespace TypeText

def unknown : String := "any /* unknown type */"

/-- The text of a scalar written without arguments. -/
def scalar? (path : String) : Option String :=
  if path == Known.string || path == Known.char then some "string"
  else if path == Known.bool then some "boolean"
  else if Known.isNumeric path then some "number"
  else if path == Known.any then some "any"
  else if path == Known.unit then some "null"
  else if Known.numerics.any (fun n => path == "[" ++ n ++ "]") then some "Array<number>"
  else if path == "[char]" then some "Array<string>"
  else none

/-- What the text of a type depends on besides the type. -/
structure Context where
  rules : List Rule := []
  scope : List String := []
  vars : List String := []

def indexSignature (keyKind value : String) : String :=
  "\x7b [key: " ++ keyKind ++ "]: " ++ value ++ " \x7d"

/-- The text of one node, given the texts of its parameters by key. -/
def node (ctx : Context) (w : Wrapped) (texts : Keyed String) : String :=
  match Rule.firstMatch? ctx.rules w with
  | some rule => rule.text
  | none =>
    let args := w.ty.args
    let at? (i : Nat) : Option String := (args[i]?).bind fun a => Keyed.get? texts a.key
    let withArgs (name : String) : String :=
      if w.parameters.isEmpty then name
      else name ++ "<" ++ ", ".intercalate (args.filterMap fun a => Keyed.get? texts a.key) ++ ">"
    let shaped : Option String :=
      match w.collection with
      | .map =>
        match at? 0, at? 1 with
        | some k, some v =>
          let keyName := (args[0]?).bind fun a =>
            (Keyed.get? w.parameters a.key).bind fun p =>
              if p.parameters.isEmpty then p.canonical? else none
          match keyName with
          | some n =>
            if n == Known.string then some (indexSignature "string" v)
            else if Known.isNumeric n then some (indexSignature "number" v)
            else some ("Map<" ++ k ++ ", " ++ v ++ ">")
          | none => some ("Map<" ++ k ++ ", " ++ v ++ ">")
        | _, _ => some "Map<any, any>"
      | .iterable | .array =>
        match args.length, at? 0 with
        | 0, _ => some "Array<any>"
        | 1, some e => some ("Array<" ++ e ++ ">")
        | _, _ => none
      | .pair =>
        match at? 0, at? 1 with
        | some a, some b => some ("[" ++ a ++ ", " ++ b ++ "]")
        | _, _ => some "[any, any]"
      | .set =>
        match at? 0 with
        | some e => some ("Set<" ++ e ++ ">")
        | none => some "Set<any>"
      | .other => none
    let builtIn : String :=
      match (if w.parameters.isEmpty then w.canonical?.bind scalar? else none) with
      | some t => t
      | none => shaped.getD unknown
    if w.ty.isWildcard then "any"
    else match w.display? with
      | some n =>
        if ctx.scope.contains n then withArgs n
        else if w.returnsVar then n
        else if w.ty.isVar && ctx.vars.contains n then withArgs n
        else builtIn
      | none => builtIn

mutual
def render (ctx : Context) : Wrapped → String
  | w@⟨_, _, _, _, ps, _, _, _, _⟩ => node ctx w (renderAll ctx ps)
def renderAll (ctx : Context) : List (String × Wrapped) → Keyed String
  | [] => []
  | (k, w) :: rest => (k, render ctx w) :: renderAll ctx rest
end

end TypeText

end TypeBridge
