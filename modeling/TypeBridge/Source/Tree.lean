import TypeBridge.Source.Extract
/-!
# Source trees

A tree of source files is read depth-first from a root, each `.rs` file in the module its path
gives. A file that is not valid Rust stops the walk; files read before it stay read.
-/

namespace TypeBridge.Source

/-- Why reading a source tree stopped. -/
inductive TreeError where
  | parse (file : String)
  | isDirectory
deriving BEq, Repr, Inhabited

def hasRsExtension (name : String) : Bool :=
  name.endsWith ".rs" && name.length > 3

/-- The module of a file at the given segments below the root. -/
def modulePath (rel : List String) : String :=
  match rel.getLast? with
  | none => "crate"
  | some last =>
    let stem := if last.endsWith ".rs" then (last.dropEnd 3).toString else last
    let dirs := rel.dropLast
    let segs := "crate" :: dirs ++ (if ["lib", "main", "mod"].contains stem then [] else [stem])
    "::".intercalate segs

def segmentsBefore : List String → List String → Bool
  | [], [] => false
  | [], _ :: _ => true
  | _ :: _, [] => false
  | a :: as, b :: bs => if a == b then segmentsBefore as bs else decide (a < b)

/-- An entry of the walk: its segments below the root, and for a file its path among the files
and its text. -/
structure Entry where
  rel : List String
  file : Option (String × String)
deriving Inhabited

/-- The entries below a root, in walk order: every file and every directory that holds one,
the root first. -/
def entriesBelow (files : List (String × String)) (root : List String) : List Entry :=
  let found := files.filterMap fun (path, text) =>
    let segs := path.splitOn "/"
    if root.isPrefixOf segs then some (segs.drop root.length, path, text) else none
  let fileEntries : List Entry := found.map fun (rel, path, text) => ⟨rel, some (path, text)⟩
  let dirs : List (List String) := (found.flatMap fun (rel, _, _) =>
    (List.range rel.length).map fun n => rel.take n).eraseDups
  let dirEntries : List Entry := (dirs.filter fun d => !found.any fun (rel, _, _) => rel == d).map
    fun d => ⟨d, none⟩
  (fileEntries ++ dirEntries).mergeSort fun a b => !segmentsBefore b.rel a.rel

end TypeBridge.Source

namespace TypeBridge.Generator

open Source

/-- Read the entries of a walk in order, stopping at the first error. -/
def readEntries (rootName : Option String) : List Entry → Generator → Generator × Option TreeError
  | [], g => (g, none)
  | e :: rest, g =>
    let name := e.rel.getLast? <|> rootName
    if !(name.any hasRsExtension) then readEntries rootName rest g
    else match e.file with
      | none => (g, some .isDirectory)
      | some (path, text) =>
        match g.readSource? (modulePath e.rel) text with
        | some g => readEntries rootName rest g
        | none => (g, some (.parse path))

def readTree (g : Generator) (files : List (String × String)) (root : Option String) :
    Generator × Option TreeError :=
  let rootSegs := match root with
    | some r => r.splitOn "/"
    | none => []
  readEntries (rootSegs.getLast?) (entriesBelow files rootSegs) g

end TypeBridge.Generator
