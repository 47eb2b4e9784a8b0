import TypeBridge.Rust.Parse.Items
/-!
# Reading Rust source

The grammar's parsers tied to themselves, and what is read with them: a source file, a type
standing alone, the meta items of an attribute and the paths of a `derive` list, each of which
must read its whole input.
-/

namespace TypeBridge.Rust

open TypeBridge.Rust.Parser TypeBridge.Rust.Parse

/-- A grammar whose parsers all fail: the end of the unrolling. -/
def Grammar.exhausted : Grammar where
  ty _ := failure
  angleArgs := failure
  bound _ := failure
  unary _ := failure
  exprFrom _ _ _ := failure
  stmtExpr := failure
  pat := failure
  patMulti := failure
  stmts := failure
  itemRest _ := failure

/-- One unrolling: the grammar's rules, calling back into `g`. -/
def Grammar.step (g : Grammar) : Grammar where
  ty := ambigTy g
  angleArgs := Parse.angleArgs g
  bound := Parse.bound g
  unary := Parse.unary g
  exprFrom := Parse.exprFrom g
  stmtExpr := Parse.stmtExpr g
  pat := singlePat g
  patMulti := multiPat g
  stmts := Parse.stmts g
  itemRest := Parse.itemRest g

def Grammar.ofFuel : Nat → Grammar
  | 0 => .exhausted
  | n + 1 => (Grammar.ofFuel n).step

def Grammar.forTrees (ts : List Tree) : Grammar :=
  Grammar.ofFuel (16 * (Tree.sizeOfList ts + 1))

def readAll {α : Type} (p : Grammar → Parser α) (ts : List Tree) : Option α :=
  match runOn (p (Grammar.forTrees ts)) (Tree.sizeOfList ts + 1) ts with
  | some (a, []) => some a
  | _ => none

def skipPlain (cs : List Char) : List Char :=
  go cs.length cs
where
  go : Nat → List Char → List Char
    | 0, cs => cs
    | n + 1, cs =>
      match cs with
      | '/' :: '/' :: rest =>
        let doc := (rest.head? == some '/' && rest.take 2 != ['/', '/']) || rest.head? == some '!'
        if doc then cs
        else match rest.dropWhile (· != '\n') with
          | _ :: after => go n after
          | [] => []
      | '/' :: '*' :: '*' :: '/' :: rest => go n rest
      | '/' :: '*' :: rest =>
        let doc := (rest.head? == some '*' && rest.take 2 != ['*', '*']) || rest.head? == some '!'
        if doc then cs
        else match closeComment rest 1 rest.length with
          | some after => go n after
          | none => cs
      | c :: rest => if Lexer.isSpace c then go n rest else cs
      | [] => []
  closeComment : List Char → Nat → Nat → Option (List Char)
    | _, _, 0 => none
    | cs, depth, n + 1 =>
      match cs with
      | '/' :: '*' :: rest => closeComment rest (depth + 1) n
      | '*' :: '/' :: rest => if depth == 1 then some rest else closeComment rest (depth - 1) n
      | _ :: rest => closeComment rest depth n
      | [] => none

/-- A source text without a leading byte-order mark and `#!` line. A `#!` followed (after
blanks and plain comments) by `[` starts an inner attribute instead; the line ends before its
newline. -/
def sourceBody (src : String) : List Char :=
  let cs := match src.toList with
    | '\uFEFF' :: rest => rest
    | cs => cs
  match cs with
  | '#' :: '!' :: rest =>
    if (skipPlain rest).head? == some '[' then cs
    else cs.dropWhile (· != '\n')
  | _ => cs

def parseFile (src : String) : Option (List Item) := do
  let ts ← Lexer.read (String.ofList (sourceBody src))
  readAll (fun g => do
    discard (innerAttrs g)
    items g) ts

def parseType (src : String) : Option Ty := do
  let ts ← Lexer.read src
  readAll (fun g => g.ty true) ts

def metaItems (ts : List Tree) : Option (List Meta) :=
  readAll (fun g => terminated (metaItem g)) ts

def derivePaths (ts : List Tree) : Option (List SynPath) :=
  readAll (fun g => terminated (path g false)) ts

end TypeBridge.Rust
