/-!
# Well-known paths

The canonical paths that the generator treats specially: the scalar types that are written
directly, the collections recognised by name, and the three collection families that a
declaration can join by listing one as a supertype.
-/

namespace TypeBridge.Known

def string : String := "std::string::String"
def char : String := "char"
def bool : String := "bool"
def unit : String := "()"
def any : String := "std::any::Any"
def pair : String := "(,)"
def array : String := "[]"
def vec : String := "std::vec::Vec"
def hashMap : String := "std::collections::HashMap"
def hashSet : String := "std::collections::HashSet"
def btreeMap : String := "std::collections::BTreeMap"
def mapFamily : String := "tsgen_codegen::collections::Map"
def setFamily : String := "tsgen_codegen::collections::Set"
def collectionFamily : String := "tsgen_codegen::collections::Collection"

def numerics : List String :=
  ["i8", "i16", "i32", "i64", "i128", "isize", "u8", "u16", "u32", "u64", "u128", "usize",
    "f32", "f64"]

def isNumeric (path : String) : Bool :=
  numerics.contains path

def isPrimitive (path : String) : Bool :=
  isNumeric path || [string, char, bool, unit, any].contains path

def primitiveArray? (element : String) : Option String :=
  if isNumeric element || element == char then some ("[" ++ element ++ "]") else none

end TypeBridge.Known
