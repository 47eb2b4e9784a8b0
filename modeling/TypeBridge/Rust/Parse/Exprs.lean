import TypeBridge.Rust.Lexer
import TypeBridge.Rust.Parse.Patterns
/-!
# Expressions

Operator precedence parsing over prefix, postfix and atomic expressions. Struct literals are
refused where a block must follow, comparisons do not chain, and a cast takes no postfix.
-/

namespace TypeBridge.Rust.Parse

open TypeBridge.Rust.Parser

variable (g : Grammar)

/-! ### Operators -/

/-- The binary operator that starts the trees, if any, with its binding strength. Compound
assignments are tried first, then two-character operators, then single characters. -/
def binOp? (ts : List Tree) : Option (String × Prec) :=
  let table : List (String × Prec) :=
    [("+=", .assign), ("-=", .assign), ("*=", .assign), ("/=", .assign), ("%=", .assign),
     ("^=", .assign), ("&=", .assign), ("|=", .assign), ("<<=", .assign), (">>=", .assign),
     ("&&", .and), ("||", .or), ("<<", .shift), (">>", .shift), ("==", .compare),
     ("<=", .compare), ("!=", .compare), (">=", .compare), ("+", .sum), ("-", .sum),
     ("*", .product), ("/", .product), ("%", .product), ("^", .bitXor), ("&", .bitAnd),
     ("|", .bitOr), ("<", .compare), (">", .compare)]
  table.find? fun (op, _) => isPunct op ts

/-- The binding strength of what follows an operand: a binary operator, `=` (not `=>`), `..`
or `as`; anything else binds loosest. -/
def peekPrec (ts : List Tree) : Prec :=
  match binOp? ts with
  | some (_, p) => p
  | none =>
    if isPunct "=" ts && !isPunct "=>" ts then .assign
    else if isPunct ".." ts then .range
    else if isKw "as" ts then .cast
    else .jump

/-- Whether the trees can start an expression; any identifier but `as` may. -/
def canBeginExpr (ts : List Tree) : Bool :=
  (isAnyIdent ts && !isKw "as" ts) || isGroup .paren ts || isGroup .bracket ts || isGroup .brace ts || isLit ts ||
    (isPunct "!" ts && !isPunct "!=" ts) ||
    (isPunct "-" ts && !isPunct "-=" ts && !isPunct "->" ts) ||
    (isPunct "*" ts && !isPunct "*=" ts) || (isPunct "|" ts && !isPunct "|=" ts) ||
    (isPunct "&" ts && !isPunct "&=" ts) || isPunct ".." ts ||
    (isPunct "<" ts && !isPunct "<=" ts && !isPunct "<<=" ts) || isColon2 ts || isLifetime ts ||
    isPunct "#" ts

def rangeEndAbsent (allowStruct : Bool) (ts : List Tree) : Bool :=
  ts.isEmpty || isPunct "," ts || isPunct ";" ts || (isPunct "." ts && !isPunct ".." ts) ||
    isPunct "?" ts || isPunct "=>" ts || (!allowStruct && isGroup .brace ts) ||
    isPunct "=" ts || isPunct "+" ts || isPunct "/" ts || isPunct "%" ts || isPunct "^" ts ||
    isPunct ">" ts || isPunct "<=" ts || isPunct "!=" ts || isPunct "-=" ts || isPunct "*=" ts ||
    isPunct "&=" ts || isPunct "|=" ts || isPunct "<<=" ts || isKw "as" ts

def rangeLimits : Parser Bool := do
  let ts ← get
  if isPunct "..=" ts then punct "..="; pure true
  else if isPunct ".." ts && !isPunct "..." ts then punct ".."; pure false
  else failure

def binopRhs (allowStruct : Bool) (prec : Prec) : Parser ExprInfo := do
  let rhs ← g.unary allowStruct
  go rhs (← read)
where
  go (rhs : ExprInfo) : Nat → Parser ExprInfo
    | 0 => pure rhs
    | n + 1 => do
      let next := peekPrec (← get)
      -- no operator is read after a range, so the operand ends there
      if let .range := rhs.kind then return rhs
      if next > prec || (next == prec && prec == .assign) then
        go (← g.exprFrom rhs allowStruct next) n
      else pure rhs

def rangeEnd (closed allowStruct : Bool) : Parser (Option ExprInfo) := do
  if !closed && rangeEndAbsent allowStruct (← get) then return none
  some <$> binopRhs g allowStruct .range

def checkCast : Parser Unit := do
  let ts ← get
  if (isPunct "." ts && !isPunct ".." ts) || isPunct "?" ts || isGroup .bracket ts ||
      isGroup .paren ts then
    failure

def exprFrom (lhs : ExprInfo) (allowStruct : Bool) (base : Prec) : Parser ExprInfo := do
  go lhs (← read)
where
  go (lhs : ExprInfo) : Nat → Parser ExprInfo
    | 0 => pure lhs
    | n + 1 => do
      let ts ← get
      if let .range := lhs.kind then return lhs
      match binOp? ts with
      | some (op, prec) =>
        if prec < base then return lhs
        if prec == .compare then
          if let .binary true := lhs.kind then failure
        punct op
        let rhs ← binopRhs g allowStruct prec
        go ⟨.binary (prec == .compare), rhs.trailingBrace⟩ n
      | none =>
        if Prec.assign ≥ base && isPunct "=" ts && !isPunct "=>" ts then
          punct "="
          let rhs ← binopRhs g allowStruct .assign
          go ⟨.other, rhs.trailingBrace⟩ n
        else if Prec.range ≥ base && isPunct ".." ts then
          let closed ← rangeLimits
          let fin ← rangeEnd g closed allowStruct
          go ⟨.range, fin.any (·.trailingBrace)⟩ n
        else if Prec.cast ≥ base && isKw "as" ts then
          kw "as"
          let t ← g.ty false
          checkCast
          go ⟨.other, t.endsInBrace⟩ n
        else return lhs

/-! ### Trailers -/

/-- Whether every `.`-separated part of a float's text is a tuple index. Answers whether the
text ended in a dot, after which `await`, a field or a method must follow. -/
def floatIndexParts (text : String) : Option Bool :=
  let trailingDot := text.endsWith "."
  let body := if trailingDot then (text.dropEnd 1).toString else text
  let isIndex (part : String) : Bool :=
    match Lexer.read part with
    | some [.lit (.int digits "")] => (intValue? digits).any (· < Nat.pow 2 32)
    | _ => false
  if (body.splitOn ".").all isIndex then some trailingDot else none

def trailer (e : ExprInfo) : Parser ExprInfo := do
  go e (← read)
where
  go (e : ExprInfo) : Nat → Parser ExprInfo
    | 0 => pure e
    | n + 1 => do
      let ts ← get
      let isRange := match e.kind with | .range => true | _ => false
      if isGroup .paren ts then
        discard (group .paren (terminated (expr g true)))
        go ⟨.other, false⟩ n
      else if isPunct "." ts && !isPunct ".." ts && !isRange then
        punct "."
        match ← get with
        | .lit (.float text) :: rest =>
          match floatIndexParts text with
          | some false => set rest; go ⟨.other, false⟩ n
          | some true =>
            set rest
            if (← kw? "await") then go ⟨.other, false⟩ n
            else fieldOrMethod n
          | none => failure
        | _ =>
          if (← kw? "await") then go ⟨.other, false⟩ n
          else fieldOrMethod n
      else if isGroup .bracket ts then
        discard (group .bracket (expr g true))
        go ⟨.other, false⟩ n
      else if isPunct "?" ts && !isRange then
        punct "?"
        go ⟨.other, false⟩ n
      else pure e
  fieldOrMethod (n : Nat) : Parser ExprInfo := do
    let named ← «member»
    let turbofish ← if named && isColon2 (← get) then discard g.angleArgs; pure true
      else pure false
    if named && (turbofish || isGroup .paren (← get)) then
      discard (group .paren (terminated (expr g true)))
    go ⟨.other, false⟩ n

/-! ### Atoms -/

def innerBlock : Parser (List Item) := blockWith g (discard (innerAttrs g))

def plainBlock : Parser (List Item) := blockWith g (pure ())

/-- A closure: binder, `const`, `static`, `async`, `move`, arguments between bars, then a
block after a return type or an expression. -/
def closure (allowStruct : Bool) : Parser ExprInfo := do
  if isKw "for" (← get) then boundLifetimes g
  discard (kw? "const")
  discard (kw? "static")
  discard (kw? "async")
  discard (kw? "move")
  punct "|"
  discard <| commaList (isPunct "|") do
    discard (outerAttrs g)
    discard g.pat
    if isPunct ":" (← get) then
      punct ":"
      discard (g.ty true)
  punct "|"
  if (← punct? "->") then
    discard (g.ty true)
    discard (plainBlock g)
    return ⟨.other, true⟩
  let body ← expr g allowStruct
  return ⟨.other, body.trailingBrace⟩

/-- The fields of a struct literal: `name: value`, shorthand names, `0: value`, and an optional
`..rest` last. -/
def structFields : Parser Unit :=
  discard <| loop do
    if (← atEnd) then return none
    if isPunct ".." (← get) then
      punct ".."
      if !(← atEnd) then discard (expr g true)
      return some ((), false)
    discard (outerAttrs g)
    let named ← «member»
    if isPunct ":" (← get) || !named then
      punct ":"
      discard (expr g true)
    if (← atEnd) then return some ((), false)
    punct ","
    return some ((), true)

/-- A path, macro call or struct literal. -/
def pathExpr (allowStruct : Bool) : Parser ExprInfo := do
  let (q, p) ← qpath g true
  let ts ← get
  if !q && isPunct "!" ts && !isPunct "!=" ts && p.isModStyle then
    punct "!"
    let (d, _) ← anyGroup
    return ⟨.macroCall (d == .brace), d == .brace⟩
  if allowStruct && isGroup .brace ts then
    group .brace (structFields g)
    return ⟨.other, true⟩
  return ⟨.other, false⟩

/-- A parenthesized expression or a tuple. -/
def parenOrTuple : Parser ExprInfo := do
  group .paren do
    if (← atEnd) then return ()
    discard (expr g true)
    discard <| many (fun ts => !ts.isEmpty) do
      punct ","
      if !(← atEnd) then discard (expr g true)
  return ⟨.other, false⟩

/-- An array, `[a, b]`, or a repetition, `[a; n]`. -/
def arrayOrRepeat : Parser ExprInfo := do
  group .bracket do
    if (← atEnd) then return ()
    discard (expr g true)
    let ts ← get
    if ts.isEmpty || isPunct "," ts then
      discard <| many (fun ts => !ts.isEmpty) do
        punct ","
        if !(← atEnd) then discard (expr g true)
    else if isPunct ";" ts then
      punct ";"
      discard (expr g true)
    else failure
  return ⟨.other, false⟩

/-- `break`, with an optional label and value; `break 'a: loop {}` needs parentheses. -/
def breakExpr (allowStruct : Bool) : Parser ExprInfo := do
  kw "break"
  let ts ← get
  if isLifetime ts && second (isPunct ":") ts then failure
  if isLifetime ts then lifetime
  let ts ← get
  if canBeginExpr ts && (allowStruct || !isGroup .brace ts) then
    let v ← expr g true
    return ⟨.other, v.trailingBrace⟩
  return ⟨.other, false⟩

def jumpExpr (word : String) (allowStruct : Bool) : Parser ExprInfo := do
  kw word
  if word == "become" || canBeginExpr (← get) then
    let v ← expr g (allowStruct || word != "return")
    return ⟨.other, v.trailingBrace⟩
  return ⟨.other, false⟩

def letExpr (allowStruct : Bool) : Parser ExprInfo := do
  kw "let"
  discard g.patMulti
  punct "="
  let v ← g.exprFrom (← g.unary allowStruct) allowStruct .compare
  return ⟨.other, v.trailingBrace⟩

/-- `if cond { … }`, with `else if` and `else` branches. -/
def ifExpr : Parser ExprInfo := do
  discard (outerAttrs g)
  discard <| loop do
    kw "if"
    discard (expr g false)
    discard (plainBlock g)
    if !isKw "else" (← get) then return some ((), false)
    kw "else"
    let ts ← get
    if isKw "if" ts then return some ((), true)
    if isGroup .brace ts then
      discard (plainBlock g)
      return some ((), false)
    failure
  return ⟨.blockLike, true⟩

/-- A loop after its outer attributes and label: `while`, `for` or `loop`. -/
def loopBody (word : String) : Parser ExprInfo := do
  kw word
  if word == "while" then discard (expr g false)
  if word == "for" then
    discard g.patMulti
    kw "in"
    discard (expr g false)
  discard (innerBlock g)
  return ⟨.blockLike, true⟩

def loopExpr (word : String) : Parser ExprInfo := do
  discard (outerAttrs g)
  if isLifetime (← get) then label
  loopBody g word

/-- `match scrutinee { arms }`. -/
def matchExpr : Parser ExprInfo := do
  discard (outerAttrs g)
  kw "match"
  discard (expr g false)
  group .brace do
    discard (innerAttrs g)
    discard <| many (fun ts => !ts.isEmpty) do
      discard (outerAttrs g)
      discard g.patMulti
      if (← kw? "if") then discard (expr g true)
      punct "=>"
      let body ← g.stmtExpr
      if !body.kind.isBlockLike && !(← atEnd) then punct ","
      else discard (punct? ",")
  return ⟨.blockLike, true⟩

def blockExpr : Parser ExprInfo := do
  discard (outerAttrs g)
  let items ← labeledBlock g
  return ⟨.block items, true⟩

/-- A labeled loop or block. -/
def labeled : Parser ExprInfo := do
  label
  let ts ← get
  if isKw "while" ts then loopBody g "while"
  else if isKw "for" ts then loopBody g "for"
  else if isKw "loop" ts then loopBody g "loop"
  else if isGroup .brace ts then
    return ⟨.block (← innerBlock g), true⟩
  else failure

def genericsAfterKeyword (ts : List Tree) : Bool :=
  genericsFollow (ts.drop 1)

/-- An atom: the expressions that operators and trailers apply to. -/
def atom (allowStruct : Bool) : Parser ExprInfo := do
  let ts ← get
  if isLit ts then
    let v ← lit
    return ⟨match v with | some s => .strLit s | none => .lit, false⟩
  else if isKw "async" ts &&
      (second (isGroup .brace) ts || (second (isKw "move") ts && third (isGroup .brace) ts)) then
    kw "async"
    discard (kw? "move")
    discard (plainBlock g)
    return ⟨.other, true⟩
  else if isKw "try" ts && second (isGroup .brace) ts then
    kw "try"
    discard (plainBlock g)
    return ⟨.blockLike, true⟩
  else if isPunct "|" ts || isKw "move" ts || (isKw "for" ts && genericsAfterKeyword ts) ||
      (isKw "const" ts && !second (isGroup .brace) ts) || isKw "static" ts ||
      (isKw "async" ts && (second (isPunct "|") ts || second (isKw "move") ts)) then
    closure g allowStruct
  else if isKw "builtin" ts && second (isPunct "#") ts then
    discard identAny
    punct "#"
    discard ident
    discard (group .paren (modify fun _ => []))
    return ⟨.other, false⟩
  else if isIdent ts || isColon2 ts || isPunct "<" ts || isKw "self" ts || isKw "Self" ts ||
      isKw "super" ts || isKw "crate" ts ||
      (isKw "try" ts && (second (isPunct "!") ts || second isColon2 ts)) then
    pathExpr g allowStruct
  else if isGroup .paren ts then parenOrTuple g
  else if isKw "break" ts then breakExpr g allowStruct
  else if isKw "continue" ts then
    kw "continue"
    if isLifetime (← get) then lifetime
    return ⟨.other, false⟩
  else if isKw "return" ts then jumpExpr g "return" true
  else if isKw "become" ts then jumpExpr g "become" true
  else if isGroup .bracket ts then arrayOrRepeat g
  else if isKw "let" ts then letExpr g allowStruct
  else if isKw "if" ts then ifExpr g
  else if isKw "while" ts then loopExpr g "while"
  else if isKw "for" ts then loopExpr g "for"
  else if isKw "loop" ts then loopExpr g "loop"
  else if isKw "match" ts then matchExpr g
  else if isKw "yield" ts then jumpExpr g "yield" true
  else if isKw "unsafe" ts then
    kw "unsafe"
    return ⟨.unsafeBlock (← innerBlock g), true⟩
  else if isKw "const" ts then
    constBlock g
    return ⟨.blockLike, true⟩
  else if isGroup .brace ts then blockExpr g
  else if isPunct ".." ts then
    let closed ← rangeLimits
    let fin ← rangeEnd g closed allowStruct
    return ⟨.range, fin.any (·.trailingBrace)⟩
  else if isKw "_" ts then
    kw "_"
    return ⟨.other, false⟩
  else if isLifetime ts then labeled g
  else failure

def trailerExpr (hasAttrs allowStruct : Bool) : Parser ExprInfo := do
  let e ← atom g allowStruct
  let e ← trailer g e
  if hasAttrs then
    if let .range := e.kind then failure
  return e

/-- A prefix expression: `&`, `&mut`, `&raw const`, `*`, `!` or `-` before another, or an atom
with trailers; outer attributes may stand first. -/
def unary (allowStruct : Bool) : Parser ExprInfo := do
  let attrs ← outerAttrs g
  let ts ← get
  if isPunct "&" ts then
    punct "&"
    let ts ← get
    let raw := isKw "raw" ts && (second (isKw "mut") ts || second (isKw "const") ts)
    if raw then discard identAny
    let mutable ← kw? "mut"
    if raw && !mutable then kw "const"
    let inner ← g.unary allowStruct
    return ⟨.other, inner.trailingBrace⟩
  else if isPunct "*" ts || isPunct "!" ts || isPunct "-" ts then
    discard next
    let inner ← g.unary allowStruct
    return ⟨.other, inner.trailingBrace⟩
  else trailerExpr g (!attrs.isEmpty) allowStruct

/-- An expression in statement position. A leading block or block-like expression ends it,
unless a method call, field or `?` follows. -/
def stmtExpr : Parser ExprInfo := do
  discard (outerAttrs g)
  let ts ← get
  let e ← if isKw "if" ts then ifExpr g
    else if isKw "while" ts then loopExpr g "while"
    else if isKw "for" ts && !genericsAfterKeyword ts then loopExpr g "for"
    else if isKw "loop" ts then loopExpr g "loop"
    else if isKw "match" ts then matchExpr g
    else if isKw "try" ts && second (isGroup .brace) ts then
      kw "try"
      discard (plainBlock g)
      pure ⟨.blockLike, true⟩
    else if isKw "unsafe" ts then
      kw "unsafe"
      pure ⟨.unsafeBlock (← innerBlock g), true⟩
    else if isKw "const" ts && second (isGroup .brace) ts then
      constBlock g
      pure ⟨.blockLike, true⟩
    else if isGroup .brace ts then blockExpr g
    else if isLifetime ts then labeled g
    else g.unary true
  if !e.kind.isBlockLike then return ← g.exprFrom e true .jump
  let ts ← get
  if (isPunct "." ts && !isPunct ".." ts) || isPunct "?" ts then
    let e ← trailer g e
    return ← g.exprFrom e true .jump
  return e

end TypeBridge.Rust.Parse
