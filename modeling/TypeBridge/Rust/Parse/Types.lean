import TypeBridge.Rust.Parse.Basic
/-!
# Paths, types, bounds, generics and attributes

The type grammar: paths with angle-bracketed or parenthesized arguments, the type forms
(tuples, references, pointers, arrays and slices, trait objects, `impl` bounds, function
pointers, macros), trait and lifetime bounds, generic parameters with `where` clauses,
visibility, and attributes with their meta items.
-/

namespace TypeBridge.Rust.Parse

open TypeBridge.Rust.Parser

variable (g : Grammar)

/-! ### Small pieces -/

def isColon2 : List Tree → Bool := isPunct "::"

def isLoneColon (ts : List Tree) : Bool := isPunct ":" ts && !isColon2 ts

def genericsFollow (ts : List Tree) : Bool :=
  isPunct "<" ts &&
    (second (isPunct ">") ts || second (isPunct "#") ts ||
      ((second isLifetime ts || second isIdent ts) &&
        (third (isPunct ">") ts || third (isPunct ",") ts || third isLoneColon ts ||
          third (isPunct "=") ts)) ||
      second (isKw "const") ts)

def colon2? : Parser Bool := punct? "::"

def label : Parser Unit := do
  lifetime
  punct ":"

def expr (allowStruct : Bool) : Parser ExprInfo := do
  g.exprFrom (← g.unary allowStruct) allowStruct .jump

def blockWith (inner : Parser Unit) : Parser (List Item) :=
  group .brace (inner *> g.stmts)

/-! ### Attributes -/

/-- A path of identifiers only, as in `pub(in path)`; it may not end in `::`. -/
def modStylePath : Parser SynPath := do
  let global ← colon2?
  let segs ← loop do
    let ts ← get
    if !(isIdent ts || isKw "super" ts || isKw "self" ts || isKw "Self" ts || isKw "crate" ts) then
      return none
    let i ← identAny
    if !isColon2 (← get) then return some ((i, false), false)
    punct "::"
    return some ((i, true), true)
  match segs.getLast? with
  | none => failure
  | some (_, true) => failure
  | some (_, false) => pure (.mk global (segs.map fun (i, _) => .mk i .none))

def metaPath : Parser SynPath := do
  if isKw "unsafe" (← get) then
    return .mk false [.mk (← identAny) .none]
  modStylePath

/-- The value after `=` in a meta item: a literal standing alone, else an expression. Answers
the text of a string literal. -/
def metaValue : Parser (Option String) := do
  punct "="
  let ts ← get
  match runOn lit (← read) ts with
  | some (v, []) => set ([] : List Tree); pure v
  | _ =>
    if isPunct "#" ts && second (isGroup .bracket) ts then failure
    else
      let e ← expr g true
      match e.kind with
      | .strLit v => pure (some v)
      | _ => pure none

/-- A meta item: a path, then bracketed arguments, `= value`, or nothing. -/
def metaItem : Parser Meta := do
  let p ← metaPath
  let ts ← get
  if isGroup .paren ts || isGroup .bracket ts || isGroup .brace ts then
    let (_, inner) ← anyGroup
    pure (.list p inner)
  else if isPunct "=" ts then
    pure (.nameValue p (← metaValue g))
  else pure (.path p)

def outerAttrs : Parser (List Attr) :=
  many (isPunct "#") do
    punct "#"
    Meta.toAttr <$> group .bracket (metaItem g)

def innerAttrs : Parser (List Attr) :=
  many (fun ts => isPunct "#" ts && second (isPunct "!") ts) do
    punct "#"
    punct "!"
    Meta.toAttr <$> group .bracket (metaItem g)

def labeledBlock : Parser (List Item) := do
  if isLifetime (← get) then label
  blockWith g (discard (innerAttrs g))

/-! ### Paths -/

/-- A constant generic argument: a literal, an identifier, or a block. -/
def constArgument : Parser Unit := do
  let ts ← get
  if isLit ts then discard lit
  else if isIdent ts then discard ident
  else if isGroup .brace ts then
    discard (outerAttrs g)
    discard (labeledBlock g)
  else failure

/-- A path segment; `exprStyle` segments take arguments only after `::`. -/
def segment (exprStyle : Bool) : Parser Segment := do
  let ts ← get
  if isKw "super" ts || isKw "self" ts || isKw "crate" ts || isKw "try" ts then
    return .mk (← identAny) .none
  let i ← if isKw "Self" ts then identAny else ident
  let ts ← get
  if (!exprStyle && isPunct "<" ts && !isPunct "<=" ts && !isPunct "<<=" ts) ||
      (isColon2 ts && third (isPunct "<") ts) then
    return .mk i (.angle (← g.angleArgs))
  return .mk i .none

def pathRest (exprStyle : Bool) : Parser (List Segment) :=
  many (fun ts => isColon2 ts && !third (isGroup .paren) ts) (punct "::" *> segment g exprStyle)

def path (exprStyle : Bool) : Parser SynPath := do
  let global ← colon2?
  let first ← segment g exprStyle
  let rest ← pathRest g exprStyle
  pure (.mk global (first :: rest))

/-- A path that may start with a qualified self type: `<T as Trait>::Name`. Answers whether it
was qualified. -/
def qpath (exprStyle : Bool) : Parser (Bool × SynPath) := do
  if isPunct "<" (← get) then
    punct "<"
    discard (g.ty true)
    if (← kw? "as") then discard (path g false)
    punct ">"
    punct "::"
    let first ← segment g exprStyle
    let rest ← many isColon2 (punct "::" *> segment g exprStyle)
    pure (true, .mk false (first :: rest))
  else
    pure (false, ← path g exprStyle)

def returnType (allowPlus : Bool) : Parser (Option Ty) := do
  if (← punct? "->") then some <$> g.ty allowPlus else pure none

def parenArgs : Parser SegmentArgs := do
  let inputs ← group .paren (terminated (g.ty true))
  let output ← returnType g false
  pure (.paren inputs output)

def lastArgsEmpty : SynPath → Bool
  | .mk _ segs =>
    match segs.getLast? with
    | some (.mk _ .none) | some (.mk _ (.angle [])) => true
    | _ => false

def setLastArgs (args : SegmentArgs) : SynPath → SynPath
  | .mk gl segs =>
    match segs.getLast? with
    | some (.mk i _) => .mk gl (segs.dropLast ++ [.mk i args])
    | none => .mk gl segs

def parenFollows (ts : List Tree) : Bool :=
  isGroup .paren ts || (isColon2 ts && third (isGroup .paren) ts)

def withParenArgs (p : SynPath) : Parser SynPath := do
  if lastArgsEmpty p && parenFollows (← get) then
    discard colon2?
    pure (setLastArgs (← parenArgs g) p)
  else pure p

/-! ### Generics -/

def lifetimeBounds : Parser Unit :=
  discard <| sepBy (fun ts => isPunct "," ts || isPunct ">" ts) "+" lifetime

/-- A generic parameter: attributes, then a lifetime with bounds, a type parameter with bounds
and a default, a `const` parameter, or (where allowed) `_`. Answers the type parameters. -/
def genericParam (allowUnderscore : Bool) : Parser (Option TypeParamSyn) := do
  discard (outerAttrs g)
  let ts ← get
  if isLifetime ts then
    lifetime
    if (← punct? ":") then lifetimeBounds
    return none
  else if isIdent ts then
    let i ← ident
    let bounds ← if isPunct ":" (← get) then
        punct ":"
        sepBy (fun ts => isPunct "," ts || isPunct ">" ts || isPunct "=" ts) "+" (g.bound true)
      else pure []
    if (← punct? "=") then discard (g.ty true)
    return some ⟨i, bounds⟩
  else if isKw "const" ts then
    kw "const"
    discard ident
    punct ":"
    discard (g.ty true)
    if (← punct? "=") then constArgument g
    return none
  else if allowUnderscore && isKw "_" ts then
    let i ← identAny
    return some ⟨i, []⟩
  else failure

def boundLifetimes : Parser Unit := do
  kw "for"
  punct "<"
  discard (commaList (isPunct ">") (genericParam g false))
  punct ">"

def generics : Parser Generics := do
  if !isPunct "<" (← get) then return {}
  punct "<"
  let params ← commaList (isPunct ">") (genericParam g true)
  punct ">"
  return { angled := true, typeParams := params.filterMap id }

def whereStop (ts : List Tree) : Bool :=
  ts.isEmpty || isGroup .brace ts || isPunct "," ts || isPunct ";" ts || isLoneColon ts ||
    isPunct "=" ts

/-- A `where` predicate: lifetime bounds (answered as none) or bounds on a type. -/
def wherePred : Parser (Option WherePred) := do
  let ts ← get
  if isLifetime ts && second (isPunct ":") ts then
    lifetime
    punct ":"
    discard <| sepBy (fun ts => ts.isEmpty || isGroup .brace ts || isPunct "," ts ||
      isPunct ";" ts || isPunct ":" ts || isPunct "=" ts) "+" lifetime
    return none
  else
    if isKw "for" ts then boundLifetimes g
    let t ← g.ty true
    punct ":"
    let bounds ← sepBy whereStop "+" (g.bound true)
    return some ⟨t, bounds⟩

def whereClause : Parser (Option (List WherePred)) := do
  if !isKw "where" (← get) then return none
  kw "where"
  if genericsFollow (← get) then failure
  let preds ← sepBy whereStop "," (wherePred g)
  return some (preds.filterMap id)

/-! ### Bounds -/

/-- A trait bound after its optional parentheses: `for<…>`, a `[const]` or `const` marker, `?`, a
path and parenthesized arguments. A `const` bound is kept only as tokens. -/
def traitBound (allowConst : Bool) : Parser Bound := do
  let binder ← if isKw "for" (← get) then boundLifetimes g; pure true else pure false
  let ts ← get
  let isConst := isGroup .bracket ts || isKw "const" ts
  if isGroup .bracket ts then group .bracket (kw "const")
  else if isKw "const" ts then kw "const"
  if isConst && !allowConst then failure
  let maybe ← punct? "?"
  let binder ← if !binder && maybe && isKw "for" (← get) then boundLifetimes g; pure true
    else pure binder
  let p ← path g false
  let p ← withParenArgs g p
  if binder && maybe then failure
  if isConst then return .verbatim ((p.parenOutput?.map Ty.endsInBrace).getD false)
  return .trait maybe p

/-- `use<…>`: the parameters an opaque type captures. -/
def preciseCapture : Parser Unit := do
  kw "use"
  punct "<"
  discard <| commaList (isPunct ">") do
    let ts ← get
    if isLifetime ts then lifetime
    else if isIdent ts || isKw "Self" ts then discard identAny
    else failure
  punct ">"

/-- One bound: a lifetime, or a trait bound, maybe parenthesized; `use<…>` is refused here. -/
def bound (allowConst : Bool) : Parser Bound := do
  let ts ← get
  if isLifetime ts then lifetime; return .lifetime
  if isKw "use" ts then failure
  if isGroup .paren ts then
    -- a bound kept as tokens then ends in the closing parenthesis
    match ← group .paren (traitBound g allowConst) with
    | .verbatim _ => pure (.verbatim false)
    | b => pure b
  else traitBound g allowConst

/-- Bounds joined by `+` (only one unless `allowPlus`); a `+` not followed by something that
can start a bound ends the list. `use<…>` is read as a lifetime-like bound when allowed. -/
def boundList (allowPlus allowPrecise allowConst : Bool) : Parser (List Bound) :=
  loop do
    let b ← if allowPrecise && isKw "use" (← get) then preciseCapture *> pure Bound.lifetime
      else g.bound allowConst
    if !(allowPlus && isPunct "+" (← get)) then return some (b, false)
    punct "+"
    let ts ← get
    if !(isAnyIdent ts || isColon2 ts || isPunct "?" ts || isLifetime ts || isGroup .paren ts ||
        (allowConst && isGroup .bracket ts)) then
      return some (b, false)
    return some (b, true)

def Bound.isTrait : Bound → Bool
  | .trait _ _ => true
  | _ => false

def objectBounds (allowPlus : Bool) : Parser (List Bound) := do
  let bs ← boundList g allowPlus false false
  if !bs.any Bound.isTrait then failure
  pure bs

def implBounds (allowPlus : Bool) : Parser (List Bound) := do
  let bs ← boundList g allowPlus true true
  if !bs.any fun b => match b with | .lifetime => false | _ => true then failure
  pure bs

/-! ### Types -/

/-- One argument of a function pointer type: attributes, an optional name, and a type; the
first may be a `self` receiver. -/
def bareFnArg (allowSelf : Bool) : Parser Unit := do
  discard (outerAttrs g)
  let ts ← get
  let hasMutSelf := allowSelf && isKw "mut" ts && second (isKw "self") ts
  if hasMutSelf then kw "mut"
  let ts ← get
  let named := (isIdent ts || isKw "_" ts || (allowSelf && isKw "self" ts)) &&
    second (isPunct ":") ts && !second isColon2 ts
  let hasSelf := named && !isIdent ts && !isKw "_" ts
  if named then
    discard identAny
    punct ":"
  let ts ← get
  if allowSelf && !hasSelf && isKw "mut" ts && second (isKw "self") ts then
    kw "mut"
    kw "self"
  else if hasMutSelf && !named then kw "self"
  else discard (g.ty true)

/-- The arguments of a function pointer type, with a final `...` allowed. -/
def bareFnInputs : Parser Unit := do
  let step (allowSelf : Bool) : Parser (Option (Unit × Bool)) := do
    if (← atEnd) then return none
    discard (outerAttrs g)
    let ts ← get
    if isPunct "..." ts ||
        ((isIdent ts || isKw "_" ts) && second (isPunct ":") ts && third (isPunct "...") ts) then
      if isIdent ts || isKw "_" ts then
        discard identAny
        punct ":"
      punct "..."
      discard (punct? ",")
      return some ((), false)
    bareFnArg g allowSelf
    if (← atEnd) then return some ((), false)
    punct ","
    return some ((), true)
  match ← step true with
  | some (_, true) => discard (loop (step false))
  | _ => pure ()

/-- A function pointer type after any `for<…>`: `unsafe`, `extern "abi"`, `fn`, arguments and a
return type without `+`. -/
def bareFn : Parser Ty := do
  discard (kw? "unsafe")
  if (← kw? "extern") then
    if isStrLit (← get) then discard litStr
  kw "fn"
  group .paren (bareFnInputs g)
  let out ← returnType g false
  pure (.bareFn ((out.map Ty.endsInBrace).getD false))

/-- What a parenthesized type turned out to be. -/
inductive ParenForm where
  | tuple (elems : List Ty)
  | lifetimeObject
  | maybeBound (b : Bound)
  | single (t : Ty)

/-- A type in parentheses: a tuple, a parenthesized type, or a trait object. -/
def parenTy (allowPlus : Bool) : Parser Ty := do
  let form ← group .paren do
    let ts ← get
    if ts.isEmpty then return ParenForm.tuple []
    if isLifetime ts then
      discard (objectBounds g true)
      return .lifetimeObject
    if isPunct "?" ts then
      return .maybeBound (← traitBound g false)
    let first ← g.ty true
    if isPunct "," (← get) then
      punct ","
      let rest ← terminated (g.ty true)
      return .tuple (first :: rest)
    return .single first
  match form with
  | .tuple elems => pure (.tuple elems)
  | .lifetimeObject => pure (.paren (.traitObject false false))
  | .maybeBound b =>
    let more ← many (isPunct "+") (punct "+" *> g.bound false)
    pure (.traitObject more.isEmpty (Bound.lastEndsInBrace (b :: more)))
  | .single first =>
    -- a path, or a single bound after `for<…>`, can be the first bound of a trait object
    let firstBrace : Option Bool := match first with
      | .path _ => some false
      | .traitObject true brace => some brace
      | _ => none
    match firstBrace with
    | some brace =>
      if allowPlus && isPunct "+" (← get) then
        let more ← many (isPunct "+") (punct "+" *> g.bound false)
        pure (.traitObject false ((more.getLast?.map Bound.endsInBrace).getD brace))
      else pure (.paren first)
    | none => pure (.paren first)

/-- A type; `allowPlus` lets a path be followed by `+ Bound` to form a trait object. -/
def ambigTy (allowPlus : Bool) : Parser Ty := do
  let binder ← if isKw "for" (← get) then
      boundLifetimes g
      let ts ← get
      if !(isIdent ts || isKw "fn" ts || isKw "unsafe" ts || isKw "extern" ts || isKw "super" ts ||
          isKw "self" ts || isKw "Self" ts || isKw "crate" ts) || isKw "dyn" ts then failure
      pure true
    else pure false
  let ts ← get
  if isGroup .paren ts then parenTy g allowPlus
  else if isKw "fn" ts || isKw "unsafe" ts || isKw "extern" ts then
    bareFn g
  else if isKw "builtin" ts && second (isPunct "#") ts then
    discard identAny
    punct "#"
    discard ident
    discard (group .paren (modify fun _ => []))
    return .verbatim false
  else if isIdent ts || isKw "super" ts || isKw "self" ts || isKw "Self" ts || isKw "crate" ts ||
      isColon2 ts || isPunct "<" ts then
    let (q, p) ← qpath g false
    if q then return .qualified
    let ts ← get
    if isPunct "!" ts && !isPunct "!=" ts && p.isModStyle then
      punct "!"
      let (d, _) ← anyGroup
      return .macroCall (d == .brace)
    if binder || (allowPlus && isPunct "+" ts) then
      -- each `+` answers the bound after it, or none when nothing that starts a bound follows
      let more ← if !allowPlus then pure [] else
        loop do
          if !isPunct "+" (← get) then return none
          punct "+"
          let ts ← get
          if !(isAnyIdent ts || isColon2 ts || isPunct "?" ts || isLifetime ts ||
              isGroup .paren ts) then
            return some (none, false)
          return some (some (← g.bound false), true)
      return .traitObject more.isEmpty
        (Bound.lastEndsInBrace (Bound.trait false p :: more.filterMap id))
    return .path p
  else if isKw "dyn" ts then
    kw "dyn"
    let star ← punct? "*"
    let brace := Bound.lastEndsInBrace (← objectBounds g allowPlus)
    return (if star then .verbatim brace else .traitObject false brace)
  else if isGroup .bracket ts then
    group .bracket do
      let elem ← g.ty true
      if (← punct? ";") then
        discard (expr g true)
        return .array elem
      return .slice elem
  else if isPunct "*" ts then
    punct "*"
    if isKw "const" (← get) then kw "const" else kw "mut"
    return .ptr (← g.ty false)
  else if isPunct "&" ts then
    punct "&"
    if isLifetime (← get) then lifetime
    discard (kw? "mut")
    return .ref (← g.ty false)
  else if isPunct "!" ts then
    punct "!"
    return .never
  else if isKw "impl" ts then
    kw "impl"
    return .implTrait (Bound.lastEndsInBrace (← implBounds g allowPlus))
  else if isKw "_" ts then
    kw "_"
    return .infer
  else if isLifetime ts then
    return .traitObject false (Bound.lastEndsInBrace (← objectBounds g true))
  else failure

/-- One generic argument: a lifetime, a constant, an associated type or constant binding, a
constraint, or a type. -/
def genericArg : Parser GenericArg := do
  let ts ← get
  if isLifetime ts && !second (isPunct "+") ts then
    lifetime
    return .other
  if isLit ts || isGroup .brace ts then
    constArgument g
    return .other
  let t ← g.ty true
  match t with
  | .path (.mk false [.mk _ args]) =>
    let plain := match args with | .paren _ _ => false | _ => true
    if plain && isPunct "=" (← get) then
      punct "="
      if isLit (← get) || isGroup .brace (← get) then constArgument g else discard (g.ty true)
      return .other
    if plain && isPunct ":" (← get) then
      punct ":"
      discard <| sepBy (fun ts => isPunct "," ts || isPunct ">" ts) "+" (g.bound true)
      return .other
    return .type t
  | _ => return .type t

def angleArgs : Parser (List GenericArg) := do
  discard colon2?
  punct "<"
  let args ← commaList (isPunct ">") (genericArg g)
  punct ">"
  pure args

/-! ### Visibility -/

/-- Visibility: `pub`, `pub(crate)`, `pub(self)`, `pub(super)` or `pub(in path)`. Answers
whether one was written. A `pub` followed by other parentheses leaves them. -/
def visibility : Parser Bool := do
  if !isKw "pub" (← get) then return false
  kw "pub"
  match ← get with
  | .group .paren inner :: rest =>
    if isKw "crate" inner || isKw "self" inner || isKw "super" inner then
      if inner.length == 1 then set rest
    else if isKw "in" inner then
      match runOn (kw "in" *> modStylePath) (← read) inner with
      | some (_, []) => set rest
      | _ => failure
  | _ => pure ()
  return true

end TypeBridge.Rust.Parse
