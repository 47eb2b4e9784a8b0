import TypeBridge.Wrapped.Shape
/-!
# Discovery state

Discovery follows every declared type the annotated roots use. Its state is keyed by simple
name: the names committed to scope, the annotated paths, the queue, the rejected names, the mode
(root or discovered, which makes a rejection an error or a warning) and the diagnostics. A type
is queued only when its simple name is in none of scope, rejected or queue.
-/

namespace TypeBridge

/-- Whether the type being processed is a root or was discovered from one. -/
inductive Mode where
  | explicitRoot
  | transitive
deriving BEq, DecidableEq, Repr, Inhabited

/-- The state of one discovery run. -/
structure Discovery where
  scope : List String := []
  annotated : Keyed String := []
  pending : Keyed String := []
  rejected : List String := []
  mode : Mode := .explicitRoot
  diagnostics : List Diagnostic := []
deriving Repr, Inhabited

namespace Discovery

def inScope (s : Discovery) (simple : String) : Bool := s.scope.contains simple

def isRejected (s : Discovery) (simple : String) : Bool := s.rejected.contains simple

def addToScope (s : Discovery) (path : String) : Discovery :=
  let simple := Path.simple path
  { s with
    annotated := if s.mode == .explicitRoot then s.annotated.upsert simple path else s.annotated,
    scope := if s.scope.contains simple then s.scope else s.scope ++ [simple] }

def markRejected (s : Discovery) (path : String) : Discovery :=
  let simple := Path.simple path
  { s with rejected := if s.rejected.contains simple then s.rejected else s.rejected ++ [simple] }

def enqueue (s : Discovery) (path : String) : Discovery :=
  let simple := Path.simple path
  if s.inScope simple || s.isRejected simple || s.pending.contains simple then s
  else { s with pending := s.pending ++ [(simple, path)] }

def error (s : Discovery) (r : Rejection) : Discovery :=
  { s with diagnostics := s.diagnostics ++ [⟨.error, r⟩] }

def reject (s : Discovery) (r : Rejection) : Discovery :=
  match s.mode with
  | .explicitRoot => s.error r
  | .transitive => { s with diagnostics := s.diagnostics ++ [⟨.warning, r⟩] }

def classifyAndEnqueue (r : Registry) (s : Discovery) (w : Wrapped) : Wrapped × Discovery :=
  let c := w.classify r
  (c, (c.discoveries r).foldl enqueue s)

def hasErrors (s : Discovery) : Bool := s.diagnostics.any (·.isError)

end Discovery

end TypeBridge
