import BuilderGen.Model.Settings
import BuilderGen.Toml.Document

/-!
# Layers of settings

Settings come in layers: the usual ones, a file, the environment and the command line.  For every setting
the last layer that holds it counts, and its value has to be of the kind of the setting.
-/

namespace BuilderGen

inductive LayerValue where
  | text (value : String)
  /-- A single character, which is a text but no keyword. -/
  | character (value : Char)
  | truth (value : Bool)
  /-- A value that fits no setting. -/
  | other
deriving DecidableEq, Repr, Inhabited

/-- Settings by name.  Later entries replace earlier ones. -/
abbrev Layer := List (String × LayerValue)

namespace LayerValue

def text? : LayerValue → Option String
  | text value => some value
  | character value => some (String.singleton value)
  | _ => none

def keyword? : LayerValue → Option String
  | text value => some value
  | _ => none

def truth? : LayerValue → Option Bool
  | truth value => some value
  | _ => none

/-- The value of a setting in a document. -/
def ofToml : Toml.Value → LayerValue
  | .text value => .text value
  | .truth value => .truth value
  | _ => .other

end LayerValue

namespace Layer

/-- The value of a setting that counts. -/
def find? (layer : Layer) (name : String) : Option LayerValue :=
  layer.reverse.lookup name

/-- The layer of a document. -/
def ofToml (entries : Toml.Entries) : Layer :=
  entries.map fun (name, value) => (name, .ofToml value)

/-- The value of a setting, or a fallback where the layer does not hold it.  A value of another kind is
refused. -/
def read? {α : Type} (layer : Layer) (name : String) (fallback : α) (read : LayerValue → Option α) :
    Option α :=
  match layer.find? name with
  | none => some fallback
  | some value => read value

/-- The settings of a layer over the usual ones. -/
def settings? (layer : Layer) : Option Settings := do
  let usual : Settings := {}
  let strictness ← layer.read? "provider_strictness" usual.strictness fun value =>
    value.keyword?.bind Strictness.ofKeyword?
  let duplicates ← layer.read? "duplicate_providers" usual.duplicates fun value =>
    value.keyword?.bind DuplicatePolicy.ofKeyword?
  let parallel ← layer.read? "parallel" usual.parallel LayerValue.truth?
  let cratePath ← layer.read? "crate_path" usual.cratePath LayerValue.text?
  return { strictness, duplicates, parallel, cratePath }

end Layer

end BuilderGen
