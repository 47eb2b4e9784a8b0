/-!
# Token trees of Rust source

Source text is read into token trees: identifiers (raw ones marked), single punctuation
characters (joint when another punctuation character follows at once, so that `::` or `->` are
two joint characters), literals, and groups in parentheses, brackets or braces. A lifetime is
a joint `'` followed by an identifier. A doc comment becomes the tokens of a `doc` attribute.
-/

namespace TypeBridge.Rust

/-- The brackets of a group. -/
inductive Delim where
  | paren
  | bracket
  | brace
deriving BEq, DecidableEq, Repr, Inhabited

/-- A literal token. A string's value has its escapes resolved. -/
inductive Literal where
  | str (value : String)
  | byteStr
  | cStr
  | byte
  | char
  | int (digits suffix : String)
  | float (text : String)
  | verbatim
deriving BEq, Repr, Inhabited

/-- The value of an integer literal's digits: an optional `0x`, `0o` or `0b` base prefix, then
digits of the base with underscores between them. -/
def intValue? (digits : String) : Option Nat :=
  let (base, body) : Nat × List Char :=
    match digits.toList with
    | '0' :: 'x' :: r => (16, r)
    | '0' :: 'o' :: r => (8, r)
    | '0' :: 'b' :: r => (2, r)
    | cs => (10, cs)
  let digitOf (c : Char) : Option Nat :=
    if c.isDigit then some (c.toNat - '0'.toNat)
    else if 'a' ≤ c && c ≤ 'f' then some (c.toNat - 'a'.toNat + 10)
    else if 'A' ≤ c && c ≤ 'F' then some (c.toNat - 'A'.toNat + 10)
    else none
  let step (acc : Option (Nat × Bool)) (c : Char) : Option (Nat × Bool) :=
    acc.bind fun (v, seen) =>
      if c == '_' then some (v, seen)
      else (digitOf c).bind fun d => if d < base then some (v * base + d, true) else none
  match body.foldl step (some (0, false)) with
  | some (v, true) => some v
  | _ => none

/-- A token tree. -/
inductive Tree where
  | ident (name : String) (raw : Bool)
  | punct (c : Char) (joint : Bool)
  | lit (l : Literal)
  | group (d : Delim) (inner : List Tree)
deriving BEq, Repr, Inhabited

def Tree.sizeOfList : List Tree → Nat
  | [] => 0
  | .group _ inner :: rest => 1 + sizeOfList inner + sizeOfList rest
  | _ :: rest => 1 + sizeOfList rest

end TypeBridge.Rust
