import TypeBridge.Rust.Parse.Types
/-!
# Patterns

Identifier, wildcard, literal and range patterns, paths with struct or tuple fields, macros,
references, tuples, slices, `box` patterns and alternatives. A slice may not hold a range
missing one of its ends unless it is parenthesized.
-/

namespace TypeBridge.Rust.Parse

open TypeBridge.Rust.Parser

variable (g : Grammar)

def indexLit : Parser Unit := do
  match ← get with
  | .lit (.int digits suffix) :: rest =>
    if suffix.isEmpty && (intValue? digits).any (· < Nat.pow 2 32) then set rest else failure
  | _ => failure

def «member» : Parser Bool := do
  let ts ← get
  if isIdent ts then discard ident; pure true
  else if isIntLit ts then indexLit; pure false
  else failure

def constBlock : Parser Unit := do
  kw "const"
  discard (blockWith g (discard (innerAttrs g)))

/-- One end of a range pattern, if there is one here: a literal, a path, or a `const` block. -/
def rangeBound : Parser Bool := do
  let ts ← get
  if ts.isEmpty || isPunct "|" ts || isPunct "=" ts || isLoneColon ts || isPunct "," ts ||
      isPunct ";" ts || isKw "if" ts then
    return false
  if isLit ts then discard lit
  else if isIdent ts || isColon2 ts || isPunct "<" ts || isKw "self" ts || isKw "Self" ts ||
      isKw "super" ts || isKw "crate" ts then
    discard (outerAttrs g)
    discard (qpath g true)
  else if isKw "const" ts then constBlock g
  else failure
  return true

def patRangeLimits : Parser Bool := do
  let ts ← get
  if isPunct "..=" ts then punct "..="; pure true
  else if isPunct "..." ts then punct "..."; pure true
  else if isPunct ".." ts then punct ".."; pure false
  else failure

def rangeAfterStart : Parser PatShape := do
  let closed ← patRangeLimits
  let hasEnd ← rangeBound g
  if closed && !hasEnd then failure
  return (if hasEnd then .other else .openRange)

/-- A field of a struct pattern: `name: pat`, `0: pat`, or a shorthand `box ref mut name`. -/
def fieldPat : Parser Unit := do
  let boxed ← kw? "box"
  let byRef ← kw? "ref"
  let mutable ← kw? "mut"
  let marked := boxed || byRef || mutable
  let named ← if marked then discard ident *> pure true else «member»
  if (!marked && isPunct ":" (← get)) || !named then
    punct ":"
    discard g.patMulti

/-- The fields of a struct pattern, with an optional `..` rest last. -/
def structPatFields : Parser Unit :=
  discard <| loop do
    if (← atEnd) then return none
    discard (outerAttrs g)
    if isPunct ".." (← get) then
      punct ".."
      return some ((), false)
    fieldPat g
    if (← atEnd) then return some ((), false)
    punct ","
    return some ((), true)

/-- A pattern that starts with a path: a macro, a struct or tuple struct, a range, or the path. -/
def pathPat : Parser PatShape := do
  let (q, p) ← qpath g true
  let ts ← get
  if !q && isPunct "!" ts && !isPunct "!=" ts && p.isModStyle then
    punct "!"
    discard anyGroup
    return .other
  if isGroup .brace ts then
    group .brace (structPatFields g)
    return .other
  if isGroup .paren ts then
    discard (group .paren (terminated g.patMulti))
    return .other
  if isPunct ".." ts then rangeAfterStart g
  else return .other

def litPat : Parser PatShape := do
  discard (rangeBound g)
  if isPunct ".." (← get) then rangeAfterStart g else return .other

/-- A range with no start, `..end`, or the rest pattern `..`. -/
def halfOpenPat : Parser PatShape := do
  let ts ← get
  let closed ← if isPunct "..=" ts then punct "..="; pure true
    else if isPunct ".." ts && !isPunct "..." ts then punct ".."; pure false
    else failure
  let hasEnd ← rangeBound g
  if hasEnd then return .openRange
  if closed then failure
  return .rest

def identPat : Parser PatShape := do
  discard (kw? "ref")
  discard (kw? "mut")
  if isKw "self" (← get) then discard identAny else discard ident
  if (← punct? "@") then discard g.pat
  return .other

def tuplePat : Parser PatShape := do
  discard (group .paren (terminated g.patMulti))
  return .other

def slicePat : Parser PatShape := do
  let shapes ← group .bracket (terminated g.patMulti)
  if shapes.contains .openRange then failure
  return .other

/-- A pattern without alternatives. -/
def singlePat : Parser PatShape := do
  let ts ← get
  if (isIdent ts && (second isColon2 ts || second (isPunct "!") ts || second (isGroup .brace) ts ||
        second (isGroup .paren) ts || second (isPunct "..") ts)) ||
      (isKw "self" ts && second isColon2 ts) || isColon2 ts || isPunct "<" ts ||
      isKw "Self" ts || isKw "super" ts || isKw "crate" ts then
    pathPat g
  else if isKw "_" ts then
    kw "_"
    return .other
  else if isKw "box" ts then
    kw "box"
    discard g.pat
    return .other
  else if isPunct "-" ts || isLit ts || isKw "const" ts then litPat g
  else if isKw "ref" ts || isKw "mut" ts || isKw "self" ts || isIdent ts then identPat g
  else if isPunct "&" ts then
    punct "&"
    discard (kw? "mut")
    discard g.pat
    return .other
  else if isGroup .paren ts then tuplePat g
  else if isGroup .bracket ts then slicePat g
  else if isPunct ".." ts && !isPunct "..." ts then halfOpenPat g
  else failure

def isAltBar (ts : List Tree) : Bool :=
  isPunct "|" ts && !isPunct "||" ts && !isPunct "|=" ts

def multiPat : Parser PatShape := do
  let leading ← punct? "|"
  let first ← g.pat
  if leading || isAltBar (← get) then
    discard (many isAltBar (punct "|" *> g.pat))
    return .other
  return first

end TypeBridge.Rust.Parse
