import TypeBridge.Path
/-!
# Type expressions

A `TypeRef` is a type expression as the registry sees it: a named type with arguments, a type
parameter with bounds, a wildcard, or a type known only by its text, each possibly nullable.
-/

namespace TypeBridge

/-- A type expression, each node carrying whether it may be absent. -/
inductive TypeRef where
  | named (name : String) (args : List TypeRef) (nullable : Bool)
  | var (name : String) (bounds : List TypeRef) (nullable : Bool)
  | wildcard (nullable : Bool)
  | verbatim (text : String) (nullable : Bool)
deriving Repr, Inhabited

namespace TypeRef

def simpleRef (name : String) : TypeRef := .named name [] false

def nullable : TypeRef → Bool
  | .named _ _ b | .var _ _ b | .wildcard b | .verbatim _ b => b

def withNullable (b : Bool) : TypeRef → TypeRef
  | .named n a _ => .named n a b
  | .var n bs _ => .var n bs b
  | .wildcard _ => .wildcard b
  | .verbatim t _ => .verbatim t b

def canonical? : TypeRef → Option String
  | .named n _ _ => some n
  | _ => none

def args : TypeRef → List TypeRef
  | .named _ a _ => a
  | _ => []

def isVar : TypeRef → Bool
  | .var .. => true
  | _ => false

def isWildcard : TypeRef → Bool
  | .wildcard _ => true
  | _ => false

def key : TypeRef → String
  | .wildcard _ => "any"
  | .var n _ _ => n
  | .named n _ _ => Path.simple n
  | .verbatim t _ => t

def display? : TypeRef → Option String
  | .wildcard _ => some "any"
  | .var n _ _ => some n
  | .named n _ _ => some (Path.simple n)
  | .verbatim _ _ => none

mutual
def beq : TypeRef → TypeRef → Bool
  | .named n a b, .named n' a' b' => n == n' && beqAll a a' && b == b'
  | .var n a b, .var n' a' b' => n == n' && beqAll a a' && b == b'
  | .wildcard b, .wildcard b' => b == b'
  | .verbatim t b, .verbatim t' b' => t == t' && b == b'
  | _, _ => false
def beqAll : List TypeRef → List TypeRef → Bool
  | [], [] => true
  | a :: as, a' :: as' => beq a a' && beqAll as as'
  | _, _ => false
end

instance : BEq TypeRef := ⟨beq⟩

mutual
theorem eq_of_beq : ∀ {a b : TypeRef}, beq a b = true → a = b
  | .named n a b, .named n' a' b', h => by
    simp only [beq, Bool.and_eq_true, beq_iff_eq] at h
    obtain ⟨⟨rfl, h⟩, rfl⟩ := h
    rw [eq_of_beqAll h]
  | .var n a b, .var n' a' b', h => by
    simp only [beq, Bool.and_eq_true, beq_iff_eq] at h
    obtain ⟨⟨rfl, h⟩, rfl⟩ := h
    rw [eq_of_beqAll h]
  | .wildcard b, .wildcard b', h => by
    simp only [beq, beq_iff_eq] at h
    rw [h]
  | .verbatim t b, .verbatim t' b', h => by
    simp only [beq, Bool.and_eq_true, beq_iff_eq] at h
    rw [h.1, h.2]
  | .named .., .var .., h | .named .., .wildcard .., h | .named .., .verbatim .., h
  | .var .., .named .., h | .var .., .wildcard .., h | .var .., .verbatim .., h
  | .wildcard .., .named .., h | .wildcard .., .var .., h | .wildcard .., .verbatim .., h
  | .verbatim .., .named .., h | .verbatim .., .var .., h | .verbatim .., .wildcard .., h => by
    simp [beq] at h
theorem eq_of_beqAll : ∀ {a b : List TypeRef}, beqAll a b = true → a = b
  | [], [], _ => rfl
  | a :: as, a' :: as', h => by
    simp only [beqAll, Bool.and_eq_true] at h
    rw [eq_of_beq h.1, eq_of_beqAll h.2]
  | [], _ :: _, h | _ :: _, [], h => by simp [beqAll] at h
end

mutual
theorem beq_self : ∀ a : TypeRef, beq a a = true
  | .named _ a _ => by simp [beq, beqAll_self a]
  | .var _ a _ => by simp [beq, beqAll_self a]
  | .wildcard _ => by simp [beq]
  | .verbatim _ _ => by simp [beq]
theorem beqAll_self : ∀ a : List TypeRef, beqAll a a = true
  | [] => rfl
  | a :: as => by simp [beqAll, beq_self a, beqAll_self as]
end

instance : LawfulBEq TypeRef where
  eq_of_beq := eq_of_beq
  rfl := beq_self _

instance : DecidableEq TypeRef := fun a b => decidable_of_iff (a == b) beq_iff_eq

def nullMark (b : Bool) : String := if b then "?" else ""

mutual
/-- The canonical text: the path with its arguments in angle brackets, a parameter's name,
`_` for a wildcard, the text of any other type, and `?` after a nullable node. -/
def render : TypeRef → String
  | .named n args b =>
    n ++ (if args.isEmpty then "" else "<" ++ ", ".intercalate (renderAll args) ++ ">") ++ nullMark b
  | .var n _ b => n ++ nullMark b
  | .wildcard b => "_" ++ nullMark b
  | .verbatim t b => t ++ nullMark b
def renderAll : List TypeRef → List String
  | [] => []
  | t :: ts => render t :: renderAll ts
end

mutual
/-- Replace the parameters named in `σ`. A replaced parameter is nullable when either it or its
replacement is; a named type keeps its own nullability; other nodes stay as they are. -/
def substitute (σ : List (String × TypeRef)) : TypeRef → TypeRef
  | .var n bs b =>
    match σ.lookup n with
    | some t => t.withNullable (t.nullable || b)
    | none => .var n bs b
  | .named n args b => .named n (substituteAll σ args) b
  | t => t
def substituteAll (σ : List (String × TypeRef)) : List TypeRef → List TypeRef
  | [] => []
  | t :: ts => substitute σ t :: substituteAll σ ts
end

end TypeRef

end TypeBridge
