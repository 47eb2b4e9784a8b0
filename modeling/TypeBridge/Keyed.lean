/-!
# Keyed lists

A keyed list is a list of `(key, value)` pairs in which every key occurs at most once and
entries keep the order in which their keys first arrived. Two ways of adding an entry are
needed: `insertNew` keeps an entry already present (the first one wins), and `upsert` replaces
its value where it stands (the last one wins, the first position stays).
-/

namespace TypeBridge

abbrev Keyed (α : Type) := List (String × α)

namespace Keyed

variable {α : Type}

def get? (m : Keyed α) (key : String) : Option α :=
  (m.find? (·.1 == key)).map (·.2)

def contains (m : Keyed α) (key : String) : Bool :=
  m.any (·.1 == key)

def keys (m : Keyed α) : List String :=
  m.map (·.1)

def values (m : Keyed α) : List α :=
  m.map (·.2)

/-- Add an entry unless its key is present: the first value for a key wins. -/
def insertNew (m : Keyed α) (key : String) (value : α) : Keyed α :=
  if m.contains key then m else m ++ [(key, value)]

/-- Add an entry, or replace the value of the present one where it stands. -/
def upsert (m : Keyed α) (key : String) (value : α) : Keyed α :=
  if m.contains key then m.map (fun e => if e.1 == key then (key, value) else e)
  else m ++ [(key, value)]

def erase (m : Keyed α) (key : String) : Keyed α :=
  m.filter (·.1 != key)

def ofListFirst (xs : List (String × α)) : Keyed α :=
  xs.foldl (fun m e => m.insertNew e.1 e.2) []

def ofListLast (xs : List (String × α)) : Keyed α :=
  xs.foldl (fun m e => m.upsert e.1 e.2) []

end Keyed

end TypeBridge
