/-!
# Diagnostics and errors

Why a declaration is not generated (`Rejection`), how serious that is (`Severity`: an error
for an annotated root, a warning for a discovered type), what a request on the structure of a
wrapped type can fail with (`ShapeError`), and the failure of a whole generation run. Each
kind of fault has one message function, which is the only place its wording lives.
-/

namespace TypeBridge

/-- Why a declaration is not generated. -/
inductive Rejection where
  | notDataShape (name : String)
  | inInitializer (name : String)
  | inFunction (name : String)
  | undeclaredSupertype (name supertype : String)
  | duplicateName (name existing duplicate : String)
  | unknown (name : String)
deriving BEq, Repr, Inhabited

/-- The text of a rejection. -/
def Rejection.message : Rejection → String
  | .notDataShape n => "`" ++ n ++ "` is neither a struct with named fields nor an enum of unit variants"
  | .inInitializer n => "`" ++ n ++ "` is declared inside a const or static initializer"
  | .inFunction n => "`" ++ n ++ "` is declared inside a function body"
  | .undeclaredSupertype n s => "supertype `" ++ s ++ "` of `" ++ n ++ "` has no declaration to generate from"
  | .duplicateName n e d =>
    "duplicate TypeScript identifier `" ++ n ++ "`: `" ++ e ++ "` is already generated, `" ++ d ++
      "` would collide with it"
  | .unknown n => "no declaration found for `" ++ n ++ "`"

/-- An error stops generation; a warning only reports a skipped type. -/
inductive Severity where
  | error
  | warning
deriving BEq, DecidableEq, Repr, Inhabited

/-- A rejection with its severity. -/
structure Diagnostic where
  severity : Severity
  rejection : Rejection
deriving BEq, Repr, Inhabited

namespace Diagnostic

def isError (d : Diagnostic) : Bool := d.severity == .error

def message (d : Diagnostic) : String :=
  (match d.severity with | .error => "error: " | .warning => "warning: ") ++ d.rejection.message

end Diagnostic

/-- A request on the structure of a wrapped type that cannot be answered. -/
inductive ShapeError where
  | boundsOnNonVariable (ty : String)
  | noParameters (ty : String)
  | indexOutOfRange (ty : String) (index len : Nat)
  | missingParameter (ty key : String)
deriving BEq, Repr, Inhabited

def ShapeError.message : ShapeError → String
  | .boundsOnNonVariable t => "bounds requested on `" ++ t ++ "`, which is not a type variable"
  | .noParameters t => "`" ++ t ++ "` has no type arguments"
  | .indexOutOfRange t i n =>
    "type argument " ++ toString i ++ " out of range for `" ++ t ++ "` (" ++ toString n ++ " arguments)"
  | .missingParameter t k => "type argument `" ++ k ++ "` of `" ++ t ++ "` was never wrapped"

def rejectedMessage (ds : List Diagnostic) : String :=
  "TypeScript generation failed:\n" ++ "\n".intercalate (ds.map fun d => "  " ++ d.message)

end TypeBridge
