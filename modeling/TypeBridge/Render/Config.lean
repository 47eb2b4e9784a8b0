import TypeBridge.Text.Blank
/-!
# Generator configuration

The enclosure, indentation, export and declare flags, the restriction to the roots' modules,
the file name, the output directory and the header timestamp. `Config.fromEnv` reads the settings
a build script passes through the environment.
-/

namespace TypeBridge

/-- What the declarations are wrapped in. -/
inductive Enclosure where
  | moduleBlock
  | namespaceBlock
  | bare
deriving BEq, DecidableEq, Repr, Inhabited

def Enclosure.parse? (value : String) : Option Enclosure :=
  match Text.asciiLower (Text.trimBlank value) with
  | "module" => some .moduleBlock
  | "namespace" => some .namespaceBlock
  | "none" => some .bare
  | _ => none

/-- The settings of a generator. -/
structure Config where
  moduleName : String := "NativeTypes"
  enclosure : Enclosure := .moduleBlock
  indent : String := "  "
  constrain : Bool := false
  exportDefinitions : Bool := false
  declare : Bool := true
  fileName : String := "types.d.ts"
  outputDir : Option String := none
  timestamp : Option String := none
deriving BEq, Repr, Inhabited

namespace Config

def stamp (c : Config) (clock : Nat) : String := c.timestamp.getD (toString clock)

def baseIndent (c : Config) : String :=
  match c.enclosure with
  | .bare => ""
  | _ => c.indent

/-- A decimal count as an unsigned 64-bit reader takes it: an optional `+`, then one or more
ASCII digits, with a value below 2^64. -/
def parseCount? (s : String) : Option Nat :=
  let digits := match s.toList with
    | '+' :: rest => rest
    | cs => cs
  if digits.isEmpty || !digits.all Char.isDigit then none
  else
    let n := digits.foldl (fun acc c => acc * 10 + (c.toNat - '0'.toNat)) 0
    if n < Nat.pow 2 64 then some n else none

def indentOf (value : String) : String :=
  match parseCount? value with
  | some n => String.ofList (List.replicate n ' ')
  | none => value.replace "\\t" "\t"

/-- The default settings updated from environment variables. -/
def fromEnv (env : String → Option String) : Config :=
  let c : Config := {}
  let c := match env "TSGEN_MODULE" with | some m => { c with moduleName := m } | none => c
  let c := match (env "TSGEN_MODULE_KIND").bind Enclosure.parse? with
    | some e => { c with enclosure := e }
    | none => c
  let c := match env "TSGEN_INDENT" with | some i => { c with indent := indentOf i } | none => c
  let c := match env "TSGEN_OUTPUT_DIR" with | some d => { c with outputDir := some d } | none => c
  match env "TSGEN_FILENAME" with | some f => { c with fileName := f } | none => c

end Config

end TypeBridge
