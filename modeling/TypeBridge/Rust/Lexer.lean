import TypeBridge.Rust.Token
import TypeBridge.Text.Blank
import TypeBridge.Text.Identifier
/-!
# Reading token trees

`Lexer.read` turns source text into token trees or rejects it. It skips blanks and comments,
turns doc comments into `doc` attributes, and tries literals, punctuation and identifiers in
that order. Every scanner answers a shorter rest, which is what ends the recursion.
-/

namespace TypeBridge.Rust.Lexer

open TypeBridge.Text

def isSpace (c : Char) : Bool := isBlank c || c == '‎' || c == '‏'

def isPunctChar (c : Char) : Bool := "~!@#$%^&*-=+|;:,<.>/?'".contains c

def startsWith : List Char → List Char → Bool
  | _, [] => true
  | c :: cs, p :: ps => c == p && startsWith cs ps
  | [], _ :: _ => false

def untilNewline : List Char → List Char × List Char
  | [] => ([], [])
  | '\n' :: rest => ([], '\n' :: rest)
  | '\r' :: '\n' :: rest => ([], '\n' :: rest)
  | c :: rest => let (a, b) := untilNewline rest; (c :: a, b)

theorem untilNewline_rest_length (cs : List Char) : (untilNewline cs).2.length ≤ cs.length := by
  fun_induction untilNewline cs <;> simp_all
  omega

def blockComment (cs : List Char) : Option (List Char × List Char) :=
  go cs 0 []
where
  go : List Char → Nat → List Char → Option (List Char × List Char)
    | '/' :: '*' :: rest, d, acc => go rest (d + 1) ('*' :: '/' :: acc)
    | '*' :: '/' :: rest, d, acc =>
      if d == 1 then some ((('/' :: '*' :: acc).reverse), rest) else go rest (d - 1) ('/' :: '*' :: acc)
    | c :: rest, d, acc => go rest d (c :: acc)
    | [], _, _ => none

theorem blockComment.go_rest_length {cs : List Char} {d : Nat} {acc t r : List Char}
    (h : blockComment.go cs d acc = some (t, r)) : r.length < cs.length := by
  fun_induction blockComment.go cs d acc generalizing t r <;> simp_all <;> grind

theorem blockComment_rest_length {cs t r : List Char} (h : blockComment cs = some (t, r)) :
    r.length < cs.length :=
  blockComment.go_rest_length h

/-- Skip blanks and plain comments. An unclosed block comment stops the skipping. -/
def skipTrivia (cs : List Char) : List Char :=
  match cs with
  | [] => []
  | c :: rest =>
    if startsWith cs ['/', '/'] && (!startsWith cs ['/', '/', '/'] || startsWith cs ['/', '/', '/', '/'])
        && !startsWith cs ['/', '/', '!'] then
      -- the comment's first character is not a line break, so it is skipped with the rest
      skipTrivia (untilNewline rest).2
    else if startsWith cs ['/', '*', '*', '/'] then skipTrivia (rest.drop 3)
    else if startsWith cs ['/', '*'] && (!startsWith cs ['/', '*', '*'] || startsWith cs ['/', '*', '*', '*'])
        && !startsWith cs ['/', '*', '!'] then
      match h : blockComment (c :: rest) with
      | some (_, r) =>
        have : r.length < (c :: rest).length := blockComment_rest_length h
        skipTrivia r
      | none => cs
    else if isSpace c then skipTrivia rest
    else cs
termination_by cs.length
decreasing_by
  all_goals
    have := untilNewline_rest_length rest
    simp only [List.length_cons, List.length_drop] at *
    omega

/-- A doc comment: whether it is inner, its text, and the rest. -/
def docComment (cs : List Char) : Option (Bool × List Char × List Char) :=
  let content : Option (Bool × List Char × List Char) :=
    if startsWith cs ['/', '/', '!'] then
      let (t, r) := untilNewline (cs.drop 3); some (true, t, r)
    else if startsWith cs ['/', '*', '!'] then
      (blockComment cs).map fun (t, r) => (true, (t.drop 3).dropLast.dropLast, r)
    else if startsWith cs ['/', '/', '/'] then
      if startsWith (cs.drop 3) ['/'] then none
      else let (t, r) := untilNewline (cs.drop 3); some (false, t, r)
    else if startsWith cs ['/', '*', '*'] && !startsWith (cs.drop 3) ['*'] then
      (blockComment cs).map fun (t, r) => (false, (t.drop 3).dropLast.dropLast, r)
    else none
  content.bind fun (inner, t, r) => if bareCr t then none else some (inner, t, r)
where
  bareCr : List Char → Bool
    | '\r' :: '\n' :: rest => bareCr rest
    | '\r' :: _ => true
    | _ :: rest => bareCr rest
    | [] => false

def docTokens (inner : Bool) (text : List Char) : List Tree :=
  [.punct '#' false] ++ (if inner then [.punct '!' false] else []) ++
    [.group .bracket [.ident "doc" false, .punct '=' false, .lit (.str (String.ofList text))]]

def identChars : List Char → Option (List Char × List Char)
  | c :: rest => if isIdentStart c then some (c :: rest.takeWhile isIdentContinue, rest.dropWhile isIdentContinue) else none
  | [] => none

def suffix (cs : List Char) : List Char × List Char :=
  match identChars cs with
  | some p => p
  | none => ([], cs)

def hexVal (c : Char) : Option Nat :=
  if '0' ≤ c && c ≤ '9' then some (c.toNat - '0'.toNat)
  else if 'a' ≤ c && c ≤ 'f' then some (c.toNat - 'a'.toNat + 10)
  else if 'A' ≤ c && c ≤ 'F' then some (c.toNat - 'A'.toNat + 10)
  else none

def unicodeEscape : List Char → Option (Char × List Char)
  | '{' :: rest => go rest 0 0
  | _ => none
where
  go : List Char → Nat → Nat → Option (Char × List Char)
    | '_' :: rest, v, len => if len > 0 then go rest v len else none
    | '}' :: rest, v, len =>
      if len > 0 && v < 0x110000 && !(0xD800 ≤ v && v ≤ 0xDFFF) then some (Char.ofNat v, rest) else none
    | c :: rest, v, len =>
      match hexVal c with
      | some d => if len == 6 then none else go rest (v * 16 + d) (len + 1)
      | none => none
    | [], _, _ => none

theorem unicodeEscape.go_rest_length {cs : List Char} {v len : Nat} {c : Char} {r : List Char}
    (h : unicodeEscape.go cs v len = some (c, r)) : r.length < cs.length := by
  fun_induction unicodeEscape.go cs v len generalizing c r <;> simp_all <;> grind

theorem unicodeEscape_rest_length {cs : List Char} {c : Char} {r : List Char}
    (h : unicodeEscape cs = some (c, r)) : r.length < cs.length := by
  match cs with
  | [] => simp [unicodeEscape] at h
  | c' :: rest =>
    by_cases hc : c' = '{'
    · subst hc
      have := unicodeEscape.go_rest_length (by simpa [unicodeEscape] using h)
      simp only [List.length_cons]; omega
    · simp [unicodeEscape, hc] at h

def skipContinuation (cs : List Char) (last : Char) : Option (List Char) :=
  if last == '\r' then
    match cs with
    | '\n' :: r => blanks r
    | _ => none
  else blanks cs
where
  blanks : List Char → Option (List Char)
    | c :: r =>
      if c == ' ' || c == '\t' || c == '\n' then blanks r
      else if c == '\r' then
        match r with
        | '\n' :: r' => blanks r'
        | _ => none
      else some (c :: r)
    | [] => none

theorem skipContinuation.blanks_rest_length {cs r : List Char}
    (h : skipContinuation.blanks cs = some r) : r.length ≤ cs.length := by
  fun_induction skipContinuation.blanks cs generalizing r <;> simp_all <;> grind

theorem skipContinuation_rest_length {cs : List Char} {last : Char} {r : List Char}
    (h : skipContinuation cs last = some r) : r.length ≤ cs.length := by
  unfold skipContinuation at h
  split at h
  · split at h
    · have := skipContinuation.blanks_rest_length h
      simp only [List.length_cons]; omega
    · simp at h
  · exact skipContinuation.blanks_rest_length h

/-- Which escapes a quoted literal allows. -/
inductive Quoting where
  | text
  | bytes
  | cText
deriving BEq, Inhabited

def quoted (q : Quoting) (cs : List Char) : Option (List Char × List Char) :=
  go cs []
where
  go (cs acc : List Char) : Option (List Char × List Char) :=
    match cs with
    | '"' :: rest => some (acc.reverse, rest)
    | '\r' :: '\n' :: rest => go rest ('\n' :: acc)
    | '\r' :: _ => none
    | '\\' :: 'x' :: a :: b :: rest =>
      match hexVal a, hexVal b with
      | some x, some y =>
        let v := x * 16 + y
        let ok := match q with
          | .text => decide (v < 0x80)
          | .bytes => true
          | .cText => v != 0
        if ok then go rest (Char.ofNat v :: acc) else none
      | _, _ => none
    | '\\' :: 'u' :: rest =>
      if q == .bytes then none
      else match h : unicodeEscape rest with
        | some (c, r) =>
          have : r.length < rest.length := unicodeEscape_rest_length h
          if q == .cText && c.toNat == 0 then none else go r (c :: acc)
        | none => none
    | '\\' :: c :: rest =>
      if c == 'n' then go rest ('\n' :: acc)
      else if c == 'r' then go rest ('\r' :: acc)
      else if c == 't' then go rest ('\t' :: acc)
      else if c == '\\' then go rest ('\\' :: acc)
      else if c == '\'' then go rest ('\'' :: acc)
      else if c == '"' then go rest ('"' :: acc)
      else if c == '0' && q != .cText then go rest ('\u0000' :: acc)
      else if c == '\n' || c == '\r' then
        match h : skipContinuation rest c with
        | some r =>
          have : r.length ≤ rest.length := skipContinuation_rest_length h
          go r acc
        | none => none
      else none
    | c :: rest =>
      if q == .bytes && c.toNat ≥ 128 then none
      else if q == .cText && c.toNat == 0 then none
      else go rest (c :: acc)
    | [] => none
  termination_by cs.length
  decreasing_by all_goals (simp only [List.length_cons]; omega)

def rawMarks (cs : List Char) : Option (Nat × List Char) :=
  let n := (cs.takeWhile (· == '#')).length
  match cs.drop n with
  | '"' :: rest => if n > 255 then none else some (n, rest)
  | _ => none

def rawBody (q : Quoting) (marks : Nat) (cs : List Char) : Option (List Char × List Char) :=
  go cs []
where
  go : List Char → List Char → Option (List Char × List Char)
    | '"' :: rest, acc =>
      if startsWith rest (List.replicate marks '#') then some (acc.reverse, rest.drop marks)
      else go rest ('"' :: acc)
    | '\r' :: '\n' :: rest, acc => go rest ('\n' :: '\r' :: acc)
    | '\r' :: _, _ => none
    | c :: rest, acc =>
      if q == .bytes && c.toNat ≥ 128 then none
      else if q == .cText && c.toNat == 0 then none
      else go rest (c :: acc)
    | [], _ => none

/-- A string, byte-string or C-string literal with its suffix. -/
def stringLike (cs : List Char) : Option (Literal × List Char) :=
  let finish (l : Literal) (r : List Char) := some (l, (suffix r).2)
  match cs with
  | '"' :: rest => (quoted .text rest).bind fun (v, r) => finish (.str (String.ofList v)) r
  | 'r' :: rest => (rawMarks rest).bind fun (m, r) =>
      (rawBody .text m r).bind fun (v, r) => finish (.str (String.ofList v)) r
  | 'b' :: '"' :: rest => (quoted .bytes rest).bind fun (_, r) => finish .byteStr r
  | 'b' :: 'r' :: rest => (rawMarks rest).bind fun (m, r) => (rawBody .bytes m r).bind fun (_, r) => finish .byteStr r
  | 'c' :: '"' :: rest => (quoted .cText rest).bind fun (_, r) => finish .cStr r
  | 'c' :: 'r' :: rest => (rawMarks rest).bind fun (m, r) => (rawBody .cText m r).bind fun (_, r) => finish .cStr r
  | _ => none

/-- A byte literal `b'…'` with its suffix. -/
def byteLit : List Char → Option (Literal × List Char)
  | 'b' :: '\'' :: rest =>
    let body : Option (List Char) :=
      match rest with
      | '\\' :: 'x' :: a :: b :: r => if (hexVal a).isSome && (hexVal b).isSome then some r else none
      | '\\' :: c :: r => if "nrt\\0'\"".contains c then some r else none
      | c :: r => if c.toNat < 128 then some r else none
      | [] => none
    body.bind fun
      | '\'' :: r => some (.byte, (suffix r).2)
      | _ => none
  | _ => none

/-- A character literal `'…'` with its suffix. -/
def charLit : List Char → Option (Literal × List Char)
  | '\'' :: rest =>
    let body : Option (List Char) :=
      match rest with
      | '\\' :: 'x' :: a :: b :: r => if '0' ≤ a && a ≤ '7' && (hexVal b).isSome then some r else none
      | '\\' :: 'u' :: r => (unicodeEscape r).map (·.2)
      | '\\' :: c :: r => if "nrt\\0'\"".contains c then some r else none
      | _ :: r => some r
      | [] => none
    body.bind fun
      | '\'' :: r => some (.char, (suffix r).2)
      | _ => none
  | _ => none

def isDecimalish (c : Char) : Bool := c.isDigit || c == '_'

def countOne {α : Type} (x : Nat × α) : Nat × α := (x.1 + 1, x.2)

/-- After the first digit of a number: digits, underscores and at most one dot (a dot
followed by a dot or an identifier start rejects the float). Answers how many characters it
read (an exponent mark included), the rest after an exponent mark or where the mantissa ends,
whether a dot was seen, and the exponent mark if one was read. -/
def mantissa : List Char → Bool → Option (Nat × List Char × Bool × Option Char)
  | c :: r, dot =>
    if c.isDigit || c == '_' then (mantissa r dot).map countOne
    else if c == '.' then
      if dot then some (0, c :: r, dot, none)
      else match r with
        | d :: _ => if d == '.' || isIdentStart d then none else (mantissa r true).map countOne
        | [] => (mantissa r true).map countOne
    else if c == 'e' || c == 'E' then some (1, r, dot, some c)
    else some (0, c :: r, dot, none)
  | [], dot => some (0, [], dot, none)

/-- The exponent after its mark: at most one sign before the first digit, digits and
underscores; answers how many characters it read and the rest, or nothing when there is no digit
or a second sign. -/
def exponent : List Char → Bool → Bool → Option (Nat × List Char)
  | c :: r, sign, val =>
    if c == '+' || c == '-' then
      if val then some (0, c :: r)
      else if sign then none
      else (exponent r true val).map countOne
    else if c.isDigit then (exponent r sign true).map countOne
    else if c == '_' then (exponent r sign val).map countOne
    else if val then some (0, c :: r) else none
  | [], _, val => if val then some (0, []) else none

/-- The digits of a floating-point number, counted, and the rest: there must be a dot or an
exponent. An exponent without digits ends the number before its mark, when there was a dot. -/
def floatDigits : List Char → Option (Nat × List Char)
  | c :: rest =>
    if !c.isDigit then none
    else match mantissa rest false with
      | none => none
      | some (n, r, dot, none) => if dot then some (n + 1, r) else none
      | some (n, r, dot, some e) =>
        match exponent r false false with
        | some (k, r') => some (n + 1 + k, r')
        | none => if dot then some (n, e :: r) else none
  | [] => none

def wordBreak : List Char → Bool
  | c :: _ => !isIdentContinue c
  | [] => true

/-- The digits of an integer, counted, and the rest: an optional base prefix, then at least one
digit of the base (underscores allowed, but not first in base ten). A decimal digit beyond the
base rejects the token; a letter beyond the base ends it. -/
def intDigits (cs : List Char) : Option (Nat × List Char) :=
  let (base, prefixLength, body) : Nat × Nat × List Char :=
    match cs with
    | '0' :: 'x' :: r => (16, 2, r)
    | '0' :: 'o' :: r => (8, 2, r)
    | '0' :: 'b' :: r => (2, 2, r)
    | _ => (10, 0, cs)
  (go base body true).map fun (n, r) => (prefixLength + n, r)
where
  go (base : Nat) : List Char → Bool → Option (Nat × List Char)
    | c :: r, empty =>
      if c.isDigit then
        if c.toNat - '0'.toNat ≥ base then none else (go base r false).map countOne
      else if c == '_' then
        if empty && base == 10 then none else (go base r empty).map countOne
      else match hexVal c with
        | some d =>
          if d ≥ base then (if empty then none else some (0, c :: r)) else (go base r false).map countOne
        | none => if empty then none else some (0, c :: r)
    | [], empty => if empty then none else some (0, [])

def floatLit (cs : List Char) : Option (Literal × List Char) :=
  (floatDigits cs).bind fun (n, r) =>
    let (suf, r) := suffix r
    if wordBreak r then some (.float (String.ofList (cs.take (n + suf.length))), r) else none

def intLit (cs : List Char) : Option (Literal × List Char) :=
  (intDigits cs).bind fun (n, r) =>
    let (suf, r) := suffix r
    if wordBreak r then some (.int (String.ofList (cs.take n)) (String.ofList suf), r) else none

def number (cs : List Char) : Option (Literal × List Char) :=
  floatLit cs <|> intLit cs

def literal (cs : List Char) : Option (Literal × List Char) :=
  stringLike cs <|> byteLit cs <|> charLit cs <|> number cs

def literalPrefixes : List (List Char) :=
  [['r', '"'], ['r', '#', '"'], ['r', '#', '#'], ['b', '"'], ['b', '\''], ['b', 'r', '"'],
   ['b', 'r', '#'], ['c', '"'], ['c', 'r', '"'], ['c', 'r', '#']]

def identAny (cs : List Char) : Option (String × Bool × List Char) :=
  let (raw, body) := match cs with
    | 'r' :: '#' :: r => (true, r)
    | _ => (false, cs)
  (identChars body).bind fun (name, r) =>
    let s := String.ofList name
    if raw && ["_", "super", "self", "Self", "crate"].contains s then none else some (s, raw, r)

def identifier (cs : List Char) : Option (Tree × List Char) :=
  if literalPrefixes.any (startsWith cs) then none
  else (identAny cs).map fun (s, raw, r) => (.ident s raw, r)

/-- A punctuation token. An apostrophe must start a lifetime: an identifier followed neither by
an apostrophe nor, unless it is raw, by `#`. Any other character is joint when a punctuation
character (not a comment) follows. -/
def punctuation (cs : List Char) : Option (Tree × List Char) :=
  let startsPunct (r : List Char) : Bool :=
    match r with
    | c :: _ => isPunctChar c && !startsWith r ['/', '/'] && !startsWith r ['/', '*']
    | [] => false
  if !startsPunct cs then none
  else match cs with
    | '\'' :: rest =>
      match identAny rest with
      | some (_, _, after) =>
        if startsWith after ['\''] || (startsWith after ['#'] && !startsWith rest ['r', '#']) then none
        else some (.punct '\'' true, rest)
      | none => none
    | c :: rest => some (.punct c (startsPunct rest), rest)
    | [] => none

def errorMarker : List Char := "(/*ERROR*/)".toList

def leaf (cs : List Char) : Option (Tree × List Char) :=
  ((literal cs).map fun (l, r) => (.lit l, r)) <|> punctuation cs <|> identifier cs <|>
    if startsWith cs errorMarker then some (.lit .verbatim, cs.drop errorMarker.length) else none

def opening : Char → Option Delim
  | '(' => some .paren
  | '[' => some .bracket
  | '{' => some .brace
  | _ => none

def closing : Char → Option Delim
  | ')' => some .paren
  | ']' => some .bracket
  | '}' => some .brace
  | _ => none

/-- Read token trees in at most `fuel` steps: `stack` holds the open groups (bracket and the
trees read before it), `acc` the trees of the innermost open group, both in reverse order. -/
def trees : Nat → List Char → List (Delim × List Tree) → List Tree → Option (List Tree)
  | 0, _, _, _ => none
  | fuel + 1, input, stack, acc =>
    match skipTrivia input with
    | [] => if stack.isEmpty then some acc.reverse else none
    | c :: rest =>
      let cs := c :: rest
      match docComment cs with
      | some (inner, text, r) => trees fuel r stack ((docTokens inner text).reverse ++ acc)
      | none =>
        match if startsWith cs errorMarker then none else opening c with
        | some d => trees fuel rest ((d, acc) :: stack) []
        | none =>
          match closing c with
          | some d =>
            match stack with
            | (d', outer) :: stack' =>
              if d == d' then trees fuel rest stack' (.group d acc.reverse :: outer) else none
            | [] => none
          | none =>
            match leaf cs with
            | some (t, r) => trees fuel r stack (t :: acc)
            | none => none

/-- The token trees of a text, or nothing when it cannot be read. A leading byte-order mark is
skipped. Every step of `trees` but the last reads at least one character, so the length of the
text bounds the steps. -/
def read (s : String) : Option (List Tree) :=
  let cs := match s.toList with
    | '\uFEFF' :: rest => rest
    | cs => cs
  trees (cs.length + 1) cs [] []

end TypeBridge.Rust.Lexer
