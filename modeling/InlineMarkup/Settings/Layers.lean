import InlineMarkup.Settings.Conversion
import InlineMarkup.Settings.Folder
import InlineMarkup.Toml.Document

/-!
# Layers of settings

Settings are put together from layers: the stock settings at the bottom, then documents in the
order in which they were added, then single values. Single values are always on top, no matter when
they were set. `Layers.load` merges the layers and converts the result; nothing is read before.
-/

namespace InlineMarkup.Settings

/-- **A document with settings:** given as text, or by the name of a file. -/
inductive Source where
  | text (document : String)
  | file (name : String) (required : Bool)
  deriving DecidableEq

/-- **The layers above the stock settings.** No path occurs twice among the single values. -/
structure Layers where
  sources : List Source
  overrides : List (Path × Value)

/-- Why settings cannot be loaded. -/
inductive LoadError where
  /-- A file that has to be there is not. -/
  | missingFile (name : String)
  /-- A document that is not TOML. -/
  | malformed
  | conversion (e : ConversionError)
  deriving DecidableEq

/-- The wording of an error, if it has one. -/
def LoadError.message? : LoadError → Option String
  | missingFile name => some ("configuration file \"" ++ name ++ "\" not found")
  | malformed => none
  | conversion e => some e.message

namespace Source

/-- The fields of a document from a file, or from nowhere. -/
def readDocument (origin : Option String) (text : String) : Except LoadError (Fields Value) :=
  match Toml.Document.ofText? text with
  | some fields => .ok (Value.ofTomlFields origin fields)
  | none => .error .malformed

/-- **The fields that a source contributes.** A file that need not be there may contribute none,
but one that is there has to be a document. -/
def read (files : Folder) : Source → Except LoadError (Fields Value)
  | text document => readDocument none document
  | file name required =>
    match files.find? name with
    | some (found, content) => readDocument (some found) content
    | none => if required then .error (.missingFile name) else .ok []

/-- The value with the fields of a source put over it. -/
def apply (files : Folder) (root : Value) (s : Source) : Except LoadError Value :=
  (s.read files).map fun fields => fields.foldl (fun root (name, v) => root.setField name v) root

end Source

namespace Layers

/-- Nothing above the stock settings. -/
def empty : Layers := ⟨[], []⟩

/-- One more document, on top of those before it. -/
def add (s : Source) (l : Layers) : Layers := { l with sources := l.sources ++ [s] }

/-- Do two paths name the same place? -/
def samePlace (p q : Path) : Bool :=
  let fold := fun (p : Path) => (Step.name p.first :: p.rest).map fun
    | .name key => Step.name (Unicode.lowercase key)
    | .position i => .position i
  fold p = fold q

/-- **A single value** at the place that the text names, instead of one set there before. -/
def override (text : String) (v : Value) (l : Layers) : Except PathError Layers :=
  (Path.ofText text).map fun p =>
    { l with overrides := l.overrides.filter (fun o => !samePlace p o.1) ++ [(p, v)] }

/-- **The layers merged into one value.** The first source that cannot be read gives the error. -/
def merged (files : Folder) (l : Layers) : Except LoadError Value := do
  let root ← l.sources.foldlM (Source.apply files) (Value.ofSettings .stock)
  return l.overrides.foldl (fun root (p, v) => root.setAt p v) root

/-- **The settings of all layers.** -/
def load (files : Folder) (l : Layers) : Except LoadError Settings := do
  let root ← l.merged files
  root.toSettings.mapError .conversion

end Layers
end InlineMarkup.Settings
