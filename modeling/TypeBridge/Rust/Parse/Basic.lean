import TypeBridge.Rust.Syntax
/-!
# Parsing token trees

A parser reads token trees and fails or answers a value with the trees left. Loops are bounded
by a number of rounds fixed once per input, and the mutually recursive parsers call each other
through a `Grammar` record tied to itself a bounded number of times.
-/

namespace TypeBridge.Rust

abbrev Parser := ReaderT Nat (StateT (List Tree) Option)

/-- What the statement and expression grammar needs to know of an expression. -/
inductive ExprKind where
  | strLit (value : String)
  | lit
  | block (items : List Item)
  | unsafeBlock (items : List Item)
  | blockLike
  | range
  | binary (compare : Bool)
  | macroCall (brace : Bool)
  | other
deriving Inhabited

def ExprKind.isBlockLike : ExprKind → Bool
  | .block _ | .unsafeBlock _ | .blockLike => true
  | _ => false

/-- An expression as far as the grammar needs it: its kind, and whether it ends in a block. -/
structure ExprInfo where
  kind : ExprKind
  trailingBrace : Bool := false
deriving Inhabited

/-- What the grammar needs to know of a pattern: a rest pattern `..`, a range missing one of its
ends, or anything else. -/
inductive PatShape where
  | rest
  | openRange
  | other
deriving BEq, Inhabited

/-- The binding strength of operators, loosest first: jumps and closures, assignment, ranges,
`||`, `&&`, `let`, comparisons, `|`, `^`, `&`, shifts, sums, products, casts, prefix operators,
and unambiguous expressions. -/
inductive Prec where
  | jump | assign | range | or | and | letExpr | compare | bitOr | bitXor | bitAnd | shift
  | sum | product | cast | prefixOp | unambiguous
deriving BEq, Repr, Inhabited

def Prec.rank : Prec → Nat
  | .jump => 0 | .assign => 1 | .range => 2 | .or => 3 | .and => 4 | .letExpr => 5
  | .compare => 6 | .bitOr => 7 | .bitXor => 8 | .bitAnd => 9 | .shift => 10 | .sum => 11
  | .product => 12 | .cast => 13 | .prefixOp => 14 | .unambiguous => 15

instance : LE Prec := ⟨fun a b => a.rank ≤ b.rank⟩

instance (a b : Prec) : Decidable (a ≤ b) := inferInstanceAs (Decidable (a.rank ≤ b.rank))

instance : LT Prec := ⟨fun a b => a.rank < b.rank⟩

instance (a b : Prec) : Decidable (a < b) := inferInstanceAs (Decidable (a.rank < b.rank))

/-- The parsers that the grammar's rules call back. -/
structure Grammar where
  ty : Bool → Parser Ty
  angleArgs : Parser (List GenericArg)
  bound : Bool → Parser Bound
  unary : Bool → Parser ExprInfo
  exprFrom : ExprInfo → Bool → Prec → Parser ExprInfo
  stmtExpr : Parser ExprInfo
  pat : Parser PatShape
  patMulti : Parser PatShape
  stmts : Parser (List Item)
  itemRest : List Attr → Parser Item

namespace Parser

variable {α β : Type}

/-! ### Lookahead -/

def punctOf? : Tree → Option (Char × Bool)
  | .punct c j => if c == '\'' then none else some (c, j)
  | _ => none

/-- Whether the trees start with the punctuation characters given, each but the last joint. -/
def punctAt : List Char → List Tree → Bool
  | [], _ => false
  | _ :: _, [] => false
  | [c], t :: _ =>
    match punctOf? t with
    | some (d, _) => d == c
    | none => false
  | c :: c' :: cs, t :: r =>
    match punctOf? t with
    | some (d, j) => d == c && j && punctAt (c' :: cs) r
    | none => false

def isPunct (s : String) (ts : List Tree) : Bool := punctAt s.toList ts

def keywords : List String :=
  ["_", "abstract", "as", "async", "await", "become", "box", "break", "const", "continue",
   "crate", "do", "dyn", "else", "enum", "extern", "false", "final", "fn", "for", "if", "impl",
   "in", "let", "loop", "macro", "match", "mod", "move", "mut", "override", "priv", "pub", "ref",
   "return", "Self", "self", "static", "struct", "super", "trait", "true", "try", "type",
   "typeof", "unsafe", "unsized", "use", "virtual", "where", "while", "yield"]

def isKw (k : String) : List Tree → Bool
  | .ident n false :: _ => n == k
  | _ => false

def isIdent : List Tree → Bool
  | .ident n r :: _ => r || !keywords.contains n
  | _ => false

def isAnyIdent : List Tree → Bool
  | .ident _ _ :: _ => true
  | _ => false

def isLifetime : List Tree → Bool
  | .punct '\'' true :: .ident _ _ :: _ => true
  | _ => false

def isGroup (d : Delim) : List Tree → Bool
  | .group d' _ :: _ => d' == d
  | _ => false

def isNumber : List Tree → Bool
  | .lit (.int _ _) :: _ | .lit (.float _) :: _ => true
  | _ => false

def isLit : List Tree → Bool
  | .lit _ :: _ => true
  | .ident n false :: _ => n == "true" || n == "false"
  | .punct '-' _ :: r => isNumber r
  | _ => false

def isIntLit : List Tree → Bool
  | .lit (.int _ _) :: _ => true
  | _ => false

def isStrLit : List Tree → Bool
  | .lit (.str _) :: _ => true
  | _ => false

def skip? : List Tree → Option (List Tree)
  | .punct '\'' true :: .ident _ _ :: r => some r
  | _ :: r => some r
  | [] => none

def second (p : List Tree → Bool) (ts : List Tree) : Bool :=
  match skip? ts with
  | some r => p r
  | none => false

def third (p : List Tree → Bool) (ts : List Tree) : Bool :=
  match skip? ts with
  | some r => second p r
  | none => false

/-! ### Reading trees -/

def peek (p : List Tree → Bool) : Parser Bool := do
  return p (← get)

def atEnd : Parser Bool := do
  return (← get).isEmpty

def guardAt (p : List Tree → Bool) : Parser Unit := do
  if p (← get) then pure () else failure

def next : Parser Tree := do
  match ← get with
  | t :: r => set r; pure t
  | [] => failure

def punct (s : String) : Parser Unit := do
  let ts ← get
  if isPunct s ts then set (ts.drop s.length) else failure

def punct? (s : String) : Parser Bool := do
  if isPunct s (← get) then punct s; pure true else pure false

def kw (k : String) : Parser Unit := do
  let ts ← get
  if isKw k ts then set (ts.drop 1) else failure

def kw? (k : String) : Parser Bool := do
  if isKw k (← get) then kw k; pure true else pure false

def ident : Parser Ident := do
  match ← get with
  | .ident n r :: rest => if r || !keywords.contains n then set rest; pure ⟨n, r⟩ else failure
  | _ => failure

def identAny : Parser Ident := do
  match ← get with
  | .ident n r :: rest => set rest; pure ⟨n, r⟩
  | _ => failure

def lifetime : Parser Unit := do
  match ← get with
  | .punct '\'' true :: .ident _ _ :: rest => set rest
  | _ => failure

/-- Read a literal: a literal token, `true` or `false`, or a negated number; answers the value
of a string literal. -/
def lit : Parser (Option String) := do
  match ← get with
  | .lit l :: rest =>
    set rest
    match l with
    | .str v => pure (some v)
    | _ => pure none
  | .ident n false :: rest =>
    if n == "true" || n == "false" then set rest; pure none else failure
  | .punct '-' _ :: .lit (.int _ _) :: rest | .punct '-' _ :: .lit (.float _) :: rest =>
    set rest; pure none
  | _ => failure

def litStr : Parser String := do
  match ← get with
  | .lit (.str v) :: rest => set rest; pure v
  | _ => failure

def runOn (p : Parser α) (bound : Nat) (ts : List Tree) : Option (α × List Tree) :=
  (p.run bound).run ts

/-- Read a group in the brackets `d`, parsing its contents to their end with `p`. -/
def group (d : Delim) (p : Parser α) : Parser α := do
  match ← get with
  | .group d' inner :: rest =>
    if d' == d then
      match runOn p (← read) inner with
      | some (a, []) => set rest; pure a
      | _ => failure
    else failure
  | _ => failure

def anyGroup : Parser (Delim × List Tree) := do
  match ← get with
  | .group d inner :: rest => set rest; pure (d, inner)
  | _ => failure

def attempt (p : Parser α) : Parser (Option α) := do
  match runOn p (← read) (← get) with
  | some (a, r) => set r; pure (some a)
  | none => pure none

def succeeds (p : Parser α) : Parser Bool := do
  pure (runOn p (← read) (← get)).isSome

def loop (step : Parser (Option (α × Bool))) : Parser (List α) := do
  go (← read) []
where
  go : Nat → List α → Parser (List α)
    | 0, _ => failure
    | n + 1, acc => do
      match ← step with
      | none => pure acc.reverse
      | some (a, false) => pure (a :: acc).reverse
      | some (a, true) => go n (a :: acc)

def many (more : List Tree → Bool) (p : Parser α) : Parser (List α) :=
  loop do if more (← get) then return some (← p, true) else return none

def terminated (p : Parser α) : Parser (List α) :=
  loop do
    if (← atEnd) then return none
    let a ← p
    if (← atEnd) then return some (a, false)
    punct ","
    return some (a, true)

def listUntil (stop : List Tree → Bool) (sep : String) (p : Parser α) : Parser (List α) :=
  loop do
    if stop (← get) then return none
    let a ← p
    if stop (← get) then return some (a, false)
    punct sep
    return some (a, true)

def commaList (stop : List Tree → Bool) (p : Parser α) : Parser (List α) :=
  listUntil stop "," p

def sepBy (stop : List Tree → Bool) (sep : String) (p : Parser α) : Parser (List α) :=
  loop do
    if stop (← get) then return none
    let a ← p
    if !isPunct sep (← get) then return some (a, false)
    punct sep
    return some (a, true)

end Parser

end TypeBridge.Rust
