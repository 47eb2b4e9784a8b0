import TypeBridge.Discovery.Target
/-!
# Resolving roots

`Discovery.resolveRoot` processes a root as annotated, then drains the queue snapshot by
snapshot; a type whose simple name is already in scope is skipped, and a root annotated under
another path collides with it. Every snapshot settles names of the registry, so the number of
declarations bounds the loop and serves as its fuel. `Discovery.resolveAll` resolves the roots in
order on one state.
-/

namespace TypeBridge

namespace Discovery

/-- Process one declaration: skip it when its simple name is in scope (recording a collision
between two annotated paths), otherwise assemble it and commit or reject its name. -/
def process (r : Registry) (d : Decl) (s : Discovery) : Option Target × Discovery :=
  let simple := d.simple
  if s.inScope simple then
    match s.mode, s.annotated.get? simple with
    | .explicitRoot, some existing =>
      if existing != d.name then (none, s.error (.duplicateName simple existing d.name))
      else (none, s)
    | _, _ => (none, s)
  else
    match Target.assemble r d s with
    | (none, s) => (none, s.markRejected d.name)
    | (some t, s) => (some t, s.addToScope t.name)

/-- Process the entries of one snapshot of the queue in order. -/
def drainSnapshot (r : Registry) : Keyed String → List Target → Discovery → List Target × Discovery
  | [], acc, s => (acc, s)
  | (simple, path) :: rest, acc, s =>
    let s := { s with pending := s.pending.erase simple }
    if s.inScope simple then drainSnapshot r rest acc s
    else match r.lookup? path with
      | none => drainSnapshot r rest acc s
      | some d =>
        let (t, s) := process r d s
        drainSnapshot r rest (acc ++ t.toList) s

def drain (r : Registry) : Nat → List Target → Discovery → List Target × Discovery
  | 0, acc, s => (acc, s)
  | fuel + 1, acc, s =>
    if s.pending.isEmpty then (acc, s)
    else
      let (acc, s) := drainSnapshot r s.pending acc s
      drain r fuel acc s

/-- Resolve a root and every type it reaches that is not yet in scope. -/
def resolveRoot (r : Registry) (root : String) (s : Discovery) : List Target × Discovery :=
  let s := { s with mode := .explicitRoot }
  let (first, s) :=
    match r.lookup? root with
    | some d => let (t, s) := process r d s; (t.toList, s)
    | none => ([], s.reject (.unknown root))
  let s := { s with mode := .transitive }
  drain r (r.size + 2) first s

/-- Resolve the roots in order on one state, collecting the targets of each. -/
def resolveAll (r : Registry) : List String → List Target → Discovery → List Target × Discovery
  | [], acc, s => (acc, s)
  | root :: rest, acc, s =>
    let (ts, s) := resolveRoot r root s
    resolveAll r rest (acc ++ ts) s

end Discovery

end TypeBridge
