/-!
# Paths

A declaration is named by a path: segments joined by `::`. Its simple name is the text after
the last separator and its module the text before it; a path without a separator has no
module. The split is taken at the last separator, reading from the right, so `a::::b` has the
module `a::` and `:::` the module `:` with an empty simple name.
-/

namespace TypeBridge.Path

def splitFirst : List Char → Option (List Char × List Char)
  | ':' :: ':' :: rest => some ([], rest)
  | c :: rest => (splitFirst rest).map fun p => (c :: p.1, p.2)
  | [] => none

def splitAll : List Char → List (List Char)
  | ':' :: ':' :: rest => [] :: splitAll rest
  | c :: rest => (splitAll rest).modifyHead (c :: ·)
  | [] => [[]]

def segments (path : String) : List String :=
  (splitAll path.toList).map String.ofList

def splitLast? (path : String) : Option (String × String) :=
  (splitFirst path.toList.reverse).map fun p => (String.ofList p.2.reverse, String.ofList p.1.reverse)

def simple (path : String) : String :=
  match splitLast? path with
  | some p => p.2
  | none => path

def module? (path : String) : Option String :=
  (splitLast? path).map (·.1)

def moduleOrEmpty (path : String) : String :=
  (module? path).getD ""

def within (module root : String) : Bool :=
  module == root || root.isEmpty || module.startsWith (root ++ "::")

end TypeBridge.Path
