import TypeBridge.Rust.Parse.Exprs
/-!
# Items and statements

Items of every kind and the statements of a block. Some forms are accepted but kept only as
tokens, and so give no declarations, such as a function with no body or an `impl` with a
visibility.
-/

namespace TypeBridge.Rust.Parse

open TypeBridge.Rust.Parser

variable (g : Grammar)

/-! ### Signatures -/

def peekSignature (allowSafe : Bool) (ts : List Tree) : Bool :=
  let ts := if isKw "const" ts then ts.drop 1 else ts
  let ts := if isKw "async" ts then ts.drop 1 else ts
  let ts := if isKw "unsafe" ts || (allowSafe && isKw "safe" ts) then ts.drop 1 else ts
  let ts := if isKw "extern" ts then (if isStrLit (ts.drop 1) then ts.drop 2 else ts.drop 1) else ts
  isKw "fn" ts

/-- A method receiver: `self`, `mut self`, `&'a mut self`, or `self: Type`. A `self` followed by
`::` starts a path instead. -/
def receiver : Parser Unit := do
  let reference ← punct? "&"
  if reference && isLifetime (← get) then lifetime
  discard (kw? "mut")
  if second isColon2 (← get) then failure
  kw "self"
  if !reference && isPunct ":" (← get) then
    punct ":"
    discard (g.ty true)

/-- One function argument: a receiver, `pattern: Type`, or a variadic `pattern: ...`. Answers
whether it was a receiver, or none for a variadic. -/
def fnArg : Parser (Option Bool) := do
  match ← attempt (receiver g) with
  | some () => return some true
  | none =>
    let ts ← get
    if isIdent ts && second (isPunct "<") ts then
      discard (g.ty true)
      return some false
    discard g.pat
    punct ":"
    if isPunct "..." (← get) then
      punct "..."
      return none
    discard (g.ty true)
    return some false

/-- The arguments of a function: a receiver only first, and a variadic only last. -/
def fnArgs : Parser Unit := do
  let args ← loop do
    if (← atEnd) then return none
    discard (outerAttrs g)
    if isPunct "..." (← get) then
      punct "..."
      if !(← atEnd) then punct ","
      return some (none, false)
    match ← fnArg g with
    | none =>
      if !(← atEnd) then punct ","
      return some (none, false)
    | some isReceiver =>
      if (← atEnd) then return some (some isReceiver, false)
      punct ","
      return some (some isReceiver, true)
  let receivers := args.filterMap id
  -- a receiver may only be the first argument
  if (receivers.drop 1).any id then failure

/-- A function signature: qualifiers (`safe` in place of `unsafe` where `allowSafe`), `fn`, the
name, generics, arguments, the return type and a `where` clause. Answers the name. -/
def signature (allowSafe : Bool) : Parser Ident := do
  discard (kw? "const")
  discard (kw? "async")
  if !(← kw? "unsafe") && allowSafe then discard (kw? "safe")
  if (← kw? "extern") then
    if isStrLit (← get) then discard litStr
  kw "fn"
  let i ← ident
  discard (generics g)
  group .paren (fnArgs g)
  discard (returnType g true)
  discard (whereClause g)
  pure i

def fnBody : Parser (List Item) := innerBlock g

/-! ### Pieces of items -/

/-- Named fields in braces. A field named `_` may have an anonymous struct or union type, whose
fields nest; `depth` bounds the nesting. -/
def namedFieldsWithin : Nat → Parser (List Field)
  | 0 => failure
  | depth + 1 =>
    group .brace <| terminated do
      let attrs ← outerAttrs g
      discard (visibility)
      let ts ← get
      let anonymous := isKw "_" ts
      let i ← if anonymous then identAny else ident
      punct ":"
      let ts ← get
      if anonymous && (isKw "struct" ts || (isKw "union" ts && second (isGroup .brace) ts)) then
        discard identAny
        discard (namedFieldsWithin depth)
        return ⟨attrs, some i, .verbatim true⟩
      return ⟨attrs, some i, ← g.ty true⟩

def namedFields : Parser (List Field) := do
  namedFieldsWithin g (← read)

def unnamedFields : Parser (List Field) :=
  group .paren <| terminated do
    let attrs ← outerAttrs g
    discard (visibility)
    return ⟨attrs, none, ← g.ty true⟩

/-- The body of a struct: a `where` clause, then named fields, or unnamed fields and `;`
(with a `where` clause between them if none came first), or `;`. -/
def structBody : Parser (Option (List WherePred) × Fields) := do
  let wc ← whereClause g
  let ts ← get
  if wc.isNone && isGroup .paren ts then
    let fs ← unnamedFields g
    let wc ← whereClause g
    punct ";"
    return (wc, .unnamed fs)
  else if isGroup .brace ts then
    return (wc, .named (← namedFields g))
  else
    punct ";"
    return (wc, .unit)

/-- An enum variant: attributes, a visibility, a name, fields, and `= discriminant`. -/
def variant : Parser VariantSyn := do
  let attrs ← outerAttrs g
  discard (visibility)
  let i ← ident
  let ts ← get
  let fields ← if isGroup .brace ts then Fields.named <$> namedFields g
    else if isGroup .paren ts then Fields.unnamed <$> unnamedFields g
    else pure .unit
  if (← punct? "=") then discard (expr g true)
  return ⟨attrs, i, fields⟩

def macroItem : Parser Unit := do
  discard modStylePath
  punct "!"
  if isKw "try" (← get) then discard identAny
  else if isIdent (← get) then discard ident
  let (d, _) ← anyGroup
  if d != .brace then punct ";"

def innerMacro : Parser Unit := do
  discard modStylePath
  punct "!"
  let (d, _) ← anyGroup
  if d != .brace then punct ";"

def typeItemBounds : Parser Bool := do
  if !(← punct? ":") then return false
  discard <| listUntil (fun ts => isKw "where" ts || isPunct "=" ts || isPunct ";" ts) "+"
    (g.bound true)
  return true

/-- A type item after its visibility: `type Name<…>: Bounds where … = Type where …;`. The
`where` clause may stand before `=` (`beforeEq`), after it, or, when `beforeEq` is unset, in
either place. Answers the name, generics, whether bounds were written, and the type. -/
def typeItem (beforeEq afterEq : Bool) : Parser (Ident × Generics × Bool × Option Ty) := do
  kw "type"
  let i ← ident
  let gen ← generics g
  let bounded ← typeItemBounds g
  let wc ← if beforeEq then whereClause g else pure none
  let ty ← if (← punct? "=") then some <$> g.ty true else pure none
  let wc ← if afterEq && wc.isNone then whereClause g else pure wc
  punct ";"
  return (i, { gen with whereClause := wc }, bounded, ty)

/-- A constant after its visibility and `const`: a name or `_`, generics, a type, an optional
value and a `where` clause. Answers the name and the block items of the value, or none when it
is kept as tokens (generics, a `where` clause, or no value). -/
def constRest : Parser (Option (Ident × Option (List Item))) := do
  let ts ← get
  if !(isIdent ts || isKw "_" ts) then failure
  let i ← identAny
  let gen ← generics g
  punct ":"
  discard (g.ty true)
  let value ← if (← punct? "=") then some <$> expr g true else pure none
  let wc ← whereClause g
  punct ";"
  match value with
  | some v =>
    if gen.angled || wc.isSome then return none
    return some (i, match v.kind with
      | .block items | .unsafeBlock items => some items
      | _ => none)
  | none => return none

/-! ### Trait and impl items -/

/-- A trait item. Answers the name and body items of a method with a default body. -/
def traitItem : Parser (Option (Ident × List Item)) := do
  discard (outerAttrs g)
  let visible ← visibility
  let ts ← get
  let dflt := isKw "default" ts
  if dflt then discard identAny
  let ts ← get
  let plain := !visible && !dflt
  let fnItem : Parser (Option (Ident × List Item)) := do
    let i ← signature g false
    if isGroup .brace (← get) then
      let body ← fnBody g
      return if plain then some (i, body) else none
    punct ";"
    return none
  if isKw "fn" ts || peekSignature false ts then fnItem
  else if isKw "const" ts then
    let after := ts.drop 1
    if isIdent after || isKw "_" after then
      kw "const"
      discard identAny
      discard (generics g)
      punct ":"
      discard (g.ty true)
      if (← punct? "=") then discard (expr g true)
      discard (whereClause g)
      punct ";"
      return none
    else if isKw "async" after || isKw "unsafe" after || isKw "extern" after || isKw "fn" after then
      fnItem
    else failure
  else if isKw "type" ts then
    discard (typeItem g false true)
    return none
  else if plain && (isIdent ts || isKw "self" ts || isKw "super" ts || isKw "crate" ts ||
      isColon2 ts) then
    innerMacro
    return none
  else failure

/-- An `impl` item. Answers the name and body items of a method with a body. -/
def implItem : Parser (Option (Ident × List Item)) := do
  discard (outerAttrs g)
  let visible ← visibility
  let ts ← get
  let dflt := isKw "default" ts && !second (isPunct "!") ts
  if dflt then discard identAny
  let ts ← get
  if isKw "fn" ts || peekSignature false ts then
    let i ← signature g false
    if (← punct? ";") then return none
    return some (i, ← fnBody g)
  else if isKw "const" ts then
    kw "const"
    discard (constRest g)
    return none
  else if isKw "type" ts then
    discard (typeItem g false true)
    return none
  else if !visible && !dflt && (isIdent ts || isKw "self" ts || isKw "super" ts ||
      isKw "crate" ts || isColon2 ts) then
    innerMacro
    return none
  else failure

/-- An `extern` block's item: a function, a static, a type, or a macro. -/
def foreignItem : Parser Unit := do
  discard (outerAttrs g)
  let visible ← visibility
  let ts ← get
  if isKw "fn" ts || peekSignature true ts then
    discard (signature g true)
    if isGroup .brace (← get) then discard (fnBody g) else punct ";"
  else if isKw "static" ts || ((isKw "unsafe" ts || isKw "safe" ts) && second (isKw "static") ts) then
    if !isKw "static" ts then discard identAny
    kw "static"
    discard (kw? "mut")
    discard ident
    punct ":"
    discard (g.ty true)
    if (← punct? "=") then discard (expr g true)
    punct ";"
  else if isKw "type" ts then discard (typeItem g true true)
  else if !visible && (isIdent ts || isKw "self" ts || isKw "super" ts || isKw "crate" ts ||
      isColon2 ts) then
    innerMacro
  else failure

/-! ### Use trees -/

/-- A use tree. Answers none when a group holds a path starting with `::`, which keeps the
whole `use` only as tokens; `allowRoot` permits such paths (only in the top group). -/
def useTreeWithin (allowRoot : Bool) : Nat → Parser (Option UseTree)
  | 0 => failure
  | depth + 1 => do
    let ts ← get
    if isIdent ts || isKw "self" ts || isKw "super" ts || isKw "crate" ts || isKw "try" ts then
      let i ← identAny
      if isColon2 (← get) then
        punct "::"
        match ← useTreeWithin false depth with
        | some t => return some (.path i t)
        | none => failure
      else if (← kw? "as") then
        let ts ← get
        let r ← if isIdent ts then ident else if isKw "_" ts then identAny else failure
        return some (.rename i r)
      else return some (.name i)
    else if isPunct "*" ts then
      punct "*"
      return some .glob
    else if isGroup .brace ts then
      let parts ← group .brace <| terminated do
        let rooted ← if allowRoot then colon2? else pure false
        let t ← useTreeWithin (allowRoot && !rooted) depth
        return if rooted then none else t
      if parts.any Option.isNone then return none
      return some (.group (parts.filterMap id))
    else failure

def useTree (allowRoot : Bool) : Parser (Option UseTree) := do
  useTreeWithin allowRoot (← read)

/-! ### Items -/

def items : Parser (List Item) :=
  many (fun ts => !ts.isEmpty) (do g.itemRest (← outerAttrs g))

/-- The rest of an `impl` block after its attributes. -/
def implRest : Parser Item := do
  let visible ← visibility
  if isKw "default" (← get) then discard identAny
  discard (kw? "unsafe")
  kw "impl"
  let gen ← if genericsFollow (← get) then generics g else pure {}
  let ts ← get
  let constImpl := isKw "const" ts || (isPunct "?" ts && second (isKw "const") ts)
  if constImpl then
    discard (punct? "?")
    kw "const"
  let ts ← get
  let negative := isPunct "!" ts && !second (isGroup .brace) ts
  if negative then punct "!"
  let first ← g.ty true
  let (traitPath, selfTy, forImpl) ← if (← kw? "for") then
      let selfTy ← g.ty true
      match first with
      | .path p => pure (some (negative, p), selfTy, true)
      | _ => pure (none, selfTy, true)
    else if negative then failure
    else pure (none, first, false)
  let wc ← whereClause g
  let bodies ← group .brace do
    discard (innerAttrs g)
    many (fun ts => !ts.isEmpty) (implItem g)
  if visible || constImpl || (forImpl && traitPath.isNone) then return .other
  return .impl { gen with whereClause := wc } traitPath selfTy (bodies.filterMap id)

/-- The rest of a trait after `trait Name<…>`: supertraits, a `where` clause, and items. -/
def traitRest (i : Ident) (gen : Generics) : Parser Item := do
  let supers ← if (← punct? ":") then
      listUntil (fun ts => isKw "where" ts || isGroup .brace ts) "+" (g.bound true)
    else pure []
  let wc ← whereClause g
  let bodies ← group .brace do
    discard (innerAttrs g)
    many (fun ts => !ts.isEmpty) (traitItem g)
  return .trait i { gen with whereClause := wc } supers (bodies.filterMap id)

/-- A trait or trait alias after its visibility. -/
def traitOrAlias : Parser Item := do
  kw "trait"
  let i ← ident
  let gen ← generics g
  let ts ← get
  if isGroup .brace ts || isPunct ":" ts || isKw "where" ts then traitRest g i gen
  else if isPunct "=" ts then
    punct "="
    discard <| listUntil (fun ts => isKw "where" ts || isPunct ";" ts) "+" (g.bound false)
    discard (whereClause g)
    punct ";"
    return .other
  else failure

/-- A module after its visibility: `mod name;` or `mod name { items }`. -/
def moduleRest : Parser Item := do
  discard (kw? "unsafe")
  kw "mod"
  let i ← if isKw "try" (← get) then identAny else ident
  if (← punct? ";") then return .module i none
  let content ← group .brace do
    discard (innerAttrs g)
    items g
  return .module i (some content)

/-- An `extern` block after its visibility: `unsafe`, `extern "abi"`, and items in braces. -/
def foreignModRest : Parser Item := do
  discard (kw? "unsafe")
  kw "extern"
  if isStrLit (← get) then discard litStr
  group .brace do
    discard (innerAttrs g)
    discard (many (fun ts => !ts.isEmpty) (foreignItem g))
  return .other

/-- An item after its outer attributes. -/
def itemRest (attrs : List Attr) : Parser Item := do
  let start ← get
  let visible ← visibility
  let ts ← get
  if isKw "fn" ts || peekSignature false ts then
    let i ← signature g false
    if (← punct? ";") then return .other
    return .fn i (← fnBody g)
  else if isKw "extern" ts then
    let after := ts.drop 1
    if isKw "crate" after then
      kw "extern"
      kw "crate"
      if isKw "self" (← get) then discard identAny else discard ident
      if (← kw? "as") then
        if isKw "_" (← get) then discard identAny else discard ident
      punct ";"
      return .other
    else if isGroup .brace after || (isStrLit after && second (isGroup .brace) after) then
      -- a foreign block takes no visibility
      if visible then failure else foreignModRest g
    else failure
  else if isKw "use" ts then
    kw "use"
    let rooted ← colon2?
    let tree ← useTree (!rooted)
    punct ";"
    match tree with
    | some t => return .use t
    | none => return .other
  else if isKw "static" ts then
    kw "static"
    discard (kw? "mut")
    let i ← ident
    if (← punct? "=") then
      discard (expr g true)
      punct ";"
      return .other
    punct ":"
    discard (g.ty true)
    if (← punct? ";") then return .other
    punct "="
    let v ← expr g true
    punct ";"
    return .static i (match v.kind with
      | .block items | .unsafeBlock items => some items
      | _ => none)
  else if isKw "const" ts then
    kw "const"
    match ← constRest g with
    | some (i, init) => return .const i init
    | none => return .other
  else if isKw "unsafe" ts then
    let after := ts.drop 1
    if isKw "trait" after || (isKw "auto" after && second (isKw "trait") after) then
      kw "unsafe"
      discard (kw? "auto")
      kw "trait"
      let i ← ident
      traitRest g i (← generics g)
    else if isKw "impl" after then
      set start
      implRest g
    else if isKw "extern" after then
      if visible then failure else foreignModRest g
    else if isKw "mod" after then moduleRest g
    else failure
  else if isKw "mod" ts then moduleRest g
  else if isKw "type" ts then
    let (i, gen, bounded, ty) ← typeItem g true false
    match ty with
    | some t => if bounded then return .other else return .alias i gen t
    | none => return .other
  else if isKw "struct" ts then
    kw "struct"
    let i ← ident
    let gen ← generics g
    let (wc, fields) ← structBody g
    return .struct attrs i { gen with whereClause := wc } fields
  else if isKw "enum" ts then
    kw "enum"
    let i ← ident
    let gen ← generics g
    let wc ← whereClause g
    let variants ← group .brace (terminated (variant g))
    return .enum attrs i { gen with whereClause := wc } variants
  else if isKw "union" ts && second isIdent ts then
    discard identAny
    let i ← ident
    discard (generics g)
    discard (whereClause g)
    discard (namedFields g)
    return .union attrs i
  else if isKw "trait" ts then traitOrAlias g
  else if isKw "auto" ts && second (isKw "trait") ts then
    discard identAny
    kw "trait"
    let i ← ident
    traitRest g i (← generics g)
  else if isKw "impl" ts || (isKw "default" ts && !second (isPunct "!") ts) then
    set start
    implRest g
  else if isKw "macro" ts then
    kw "macro"
    discard ident
    if isGroup .paren (← get) then discard anyGroup
    if !isGroup .brace (← get) then failure
    discard anyGroup
    return .other
  else if !visible && (isIdent ts || isKw "self" ts || isKw "super" ts || isKw "crate" ts ||
      isColon2 ts) then
    macroItem
    return .other
  else failure

/-! ### Statements -/

/-- Whether an item starts here, in statement position. -/
def startsItem (ts : List Tree) : Bool :=
  isKw "pub" ts || (isKw "crate" ts && !second isColon2 ts) || isKw "extern" ts ||
    isKw "use" ts ||
    (isKw "static" ts && (second (isKw "mut") ts || second isIdent ts)) ||
    (isKw "const" ts && !(second (isGroup .brace) ts || second (isKw "static") ts ||
      (second (isKw "async") ts &&
        !(third (isKw "unsafe") ts || third (isKw "extern") ts || third (isKw "fn") ts)) ||
      second (isKw "move") ts || second (isPunct "|") ts)) ||
    (isKw "unsafe" ts && !second (isGroup .brace) ts) ||
    (isKw "async" ts && (second (isKw "unsafe") ts || second (isKw "extern") ts ||
      second (isKw "fn") ts)) ||
    isKw "fn" ts || isKw "mod" ts || isKw "type" ts || isKw "struct" ts || isKw "enum" ts ||
    (isKw "union" ts && second isIdent ts) || (isKw "auto" ts && second (isKw "trait") ts) ||
    isKw "trait" ts ||
    (isKw "default" ts && (second (isKw "impl") ts || second (isKw "unsafe") ts)) ||
    isKw "impl" ts || isKw "macro" ts

/-- What follows a path that starts a statement: an item macro (`name! ident …`), a macro
statement in braces, or neither. -/
inductive MacroStart where
  | item
  | braced (rest : List Tree)
  | neither

/-- How a statement starting with a path and `!` is read. -/
def macroStart (bound : Nat) (ts : List Tree) : MacroStart :=
  match runOn modStylePath bound ts with
  | some (_, after) =>
    if isPunct "!" after then
      if second isIdent after || second (isKw "try") after then .item
      else if second (isGroup .brace) after &&
          !((third (isPunct ".") after && !third (isPunct "..") after) || third (isPunct "?") after) then
        .braced after
      else .neither
    else .neither
  | none => .neither

/-- A `let` statement: a pattern, an optional type, an optional value with an `else` block, and
`;`. -/
def localStmt : Parser Unit := do
  kw "let"
  discard g.pat
  if (← punct? ":") then discard (g.ty true)
  if (← punct? "=") then
    let v ← expr g true
    if !v.trailingBrace && isKw "else" (← get) then
      kw "else"
      discard (plainBlock g)
  punct ";"

/-- One statement. Answers the item, if it is one, and whether a `;` must follow before another
statement. -/
def stmt : Parser (Option Item × Bool) := do
  let attrs ← outerAttrs g
  let ts ← get
  match macroStart (← read) ts with
  | .braced after =>
    set after
    punct "!"
    discard anyGroup
    discard (punct? ";")
    return (none, false)
  | start =>
    let itemMacro := match start with | .item => true | _ => false
    if isKw "let" ts then
      localStmt g
      return (none, false)
    else if startsItem ts || itemMacro then
      return (some (← g.itemRest attrs), false)
    else
      let e ← g.stmtExpr
      let semi ← punct? ";"
      if semi then return (none, false)
      match e.kind with
      | .macroCall true => return (none, false)
      | k => return (none, !k.isBlockLike)

/-- The statements of a block, answering the items among them. Empty statements are skipped;
a statement that needs `;` must have one before the next. -/
def stmts : Parser (List Item) := do
  let found ← loop do
    discard (many (isPunct ";") (punct ";"))
    if (← atEnd) then return none
    let (item, needsSemi) ← stmt g
    if (← atEnd) then return some (item, false)
    if needsSemi then failure
    return some (item, true)
  return found.filterMap id

end TypeBridge.Rust.Parse
