import BuilderGen.Model.DeclaredType

/-!
# Zero values

The catalogue of types whose default follows from the type alone: numbers, truth values, text, the
collections, fixed arrays and unit.  A path counts as a catalogue type by its last segment, provided that
it is a bare name or starts at one of the standard roots.
-/

namespace BuilderGen

/-- The families of types that have a zero value. -/
inductive ZeroKind where
  | unit
  | integer
  | float
  | boolean
  | text
  | sequence
  | mapping
  | set
  | fixedArray
deriving DecidableEq, Repr, Inhabited

namespace ZeroKind

def keyword : ZeroKind → String
  | unit => "unit"
  | integer => "integer"
  | float => "float"
  | boolean => "boolean"
  | text => "text"
  | sequence => "sequence"
  | mapping => "mapping"
  | set => "set"
  | fixedArray => "fixed_array"

/-- All families. -/
def all : List ZeroKind :=
  [unit, integer, float, boolean, text, sequence, mapping, set, fixedArray]

/-- Reads exactly the keyword of a family. -/
def ofKeyword? (word : String) : Option ZeroKind :=
  all.find? (·.keyword = word)

theorem ofKeyword?_keyword (kind : ZeroKind) : ofKeyword? kind.keyword = some kind := by
  cases kind <;> rfl

/-- The names of the catalogue. -/
def catalogue : List (ZeroKind × List String) := [
  (boolean, ["bool"]),
  (text, ["String"]),
  (integer, ["i8", "u8", "i16", "u16", "i32", "u32", "i64", "u64", "i128", "u128", "isize", "usize"]),
  (float, ["f32", "f64"]),
  (sequence, ["Vec", "VecDeque", "LinkedList"]),
  (mapping, ["HashMap", "BTreeMap"]),
  (set, ["HashSet", "BTreeSet"])]

/-- The family of a catalogue name. -/
def ofName? (name : String) : Option ZeroKind :=
  (catalogue.find? fun entry => name ∈ entry.2).map Prod.fst

/-- The roots under which catalogue types live. -/
def roots : List String := ["std", "alloc", "core"]

/-- Whether a path is a bare name or starts at one of the roots. -/
def isRooted (path : String) : Bool :=
  match Segments.cut (Segments.bare path) with
  | (_, none) => true
  | (root, some _) => Text.trim root ∈ roots

/-- The family of a declared type, if it has a zero value.  A nullable type has none. -/
def ofType? (type : DeclaredType) : Option ZeroKind :=
  if type.nullable then none
  else
    match type.head with
    | .unit => some .unit
    | .array _ => some .fixedArray
    | .verbatim _ => none
    | .named path => if isRooted path then type.lastSegment?.bind ofName? else none

def expression : ZeroKind → String
  | unit => "()"
  | integer => "0"
  | float => "0.0"
  | boolean => "false"
  | text => "::std::string::String::new()"
  | sequence | mapping | set => "::core::default::Default::default()"
  | fixedArray => "::core::array::from_fn(|_| ::core::default::Default::default())"

end ZeroKind

end BuilderGen
