import TypeBridge.Text.Blank
import TypeBridge.Text.Uppercase
/-!
# Naming conventions

The conventions a container may ask its field and variant names to be written in, and how a
name is converted. Variant names are taken to be PascalCase: a word starts at every capital
letter after the first character (capitals of any script), and only ASCII letters change
case. Field names are taken to be snake_case: a word starts after each underscore.
-/

namespace TypeBridge.Text

/-- A naming convention. -/
inductive CaseRule where
  | lower
  | upper
  | pascal
  | camel
  | snake
  | screamingSnake
  | kebab
  | screamingKebab
deriving BEq, DecidableEq, Repr, Inhabited

/-- The convention a name stands for, as it is written in an attribute. -/
def CaseRule.ofName? : String → Option CaseRule
  | "lowercase" => some .lower
  | "UPPERCASE" => some .upper
  | "PascalCase" => some .pascal
  | "camelCase" => some .camel
  | "snake_case" => some .snake
  | "SCREAMING_SNAKE_CASE" => some .screamingSnake
  | "kebab-case" => some .kebab
  | "SCREAMING-KEBAB-CASE" => some .screamingKebab
  | _ => none

def snakeOfPascal (name : String) : String :=
  match name.toList with
  | [] => ""
  | c :: rest =>
    String.ofList (c.toLower :: rest.flatMap fun ch =>
      if isUppercase ch then ['_', ch.toLower] else [ch.toLower])

def pascalOfSnake (name : String) : String :=
  String.ofList (go name.toList true)
where
  go : List Char → Bool → List Char
    | [], _ => []
    | c :: r, start =>
      if c == '_' then go r true
      else if start then c.toUpper :: go r false
      else c :: go r false

def lowerFirst (s : String) : String :=
  match s.toList with
  | [] => ""
  | c :: rest => String.ofList (c.toLower :: rest)

def hyphenate (s : String) : String :=
  String.ofList (s.toList.map fun c => if c == '_' then '-' else c)

/-- A variant name, given in PascalCase, written in a convention. -/
def CaseRule.variantName : CaseRule → String → String
  | .lower, n => asciiLower n
  | .upper, n => asciiUpper n
  | .pascal, n => n
  | .camel, n => lowerFirst n
  | .snake, n => snakeOfPascal n
  | .screamingSnake, n => asciiUpper (snakeOfPascal n)
  | .kebab, n => hyphenate (snakeOfPascal n)
  | .screamingKebab, n => hyphenate (asciiUpper (snakeOfPascal n))

def CaseRule.fieldName : CaseRule → String → String
  | .lower, n | .snake, n => n
  | .upper, n | .screamingSnake, n => asciiUpper n
  | .pascal, n => pascalOfSnake n
  | .camel, n => lowerFirst (pascalOfSnake n)
  | .kebab, n => hyphenate n
  | .screamingKebab, n => hyphenate (asciiUpper n)

end TypeBridge.Text
