import InlineMarkup.Fields
import InlineMarkup.Settings.Path
import InlineMarkup.Toml.Value
import InlineMarkup.Unicode.Lowercase

/-!
# Values of settings

Settings come as trees of tables, arrays and scalars, from documents and from elsewhere. A tree is
put over another by merging: tables are merged name by name, anything else takes the place of what
was there. Names of tables that are merged are compared in lower case; tables inside arrays are
never merged and keep their names as they are.
-/

namespace InlineMarkup.Settings

/-- **A scalar;** `nil` is the absence of a value. -/
inductive Scalar where
  | nil
  | bool (b : Bool)
  | integer (n : Int)
  | float (x : Binary64)
  | string (s : String)
  deriving DecidableEq

/-- **A value,** with the name of the file it comes from, if it comes from one. -/
inductive Value where
  | scalar (s : Scalar) (origin : Option String)
  | array (items : List Value) (origin : Option String)
  | table (fields : List (String × Value)) (origin : Option String)

namespace Value

/-- No value, from nowhere. -/
def nil : Value := .scalar .nil none

instance : Inhabited Value := ⟨nil⟩

/-- The file a value comes from. -/
def origin : Value → Option String
  | scalar _ o | array _ o | table _ o => o

/-- The fields of a table and where it comes from; any other value counts as a new, empty table. -/
def asTable : Value → Fields Value × Option String
  | table fields o => (fields, o)
  | _ => ([], none)

/-- The items of an array and where it comes from; any other value counts as a new, empty array. -/
def asArray : Value → List Value × Option String
  | array items o => (items, o)
  | _ => ([], none)

mutual

/-- The value of a TOML value. Dates and times become their text. -/
def ofToml (origin : Option String) : Toml.Value → Value
  | .bool b => scalar (.bool b) origin
  | .integer n => scalar (.integer n) origin
  | .float x => scalar (.float x) origin
  | .string s => scalar (.string s) origin
  | .dateTime t => scalar (.string t.text) origin
  | .array items => array (ofTomlItems origin items) origin
  | .table fields => table (ofTomlFields origin fields) origin

/-- The values of the items of an array. -/
def ofTomlItems (origin : Option String) : List Toml.Value → List Value
  | [] => []
  | v :: vs => ofToml origin v :: ofTomlItems origin vs

/-- The values of the fields of a table. -/
def ofTomlFields (origin : Option String) : List (String × Toml.Value) → List (String × Value)
  | [] => []
  | (name, v) :: fields => (name, ofToml origin v) :: ofTomlFields origin fields

end

/-! ### Merging -/

mutual

/-- **What becomes of a value** when another one is put over it. A table is put into what is there
field by field; an empty one thus changes nothing where there is a value at all. -/
def merge (incoming : Value) (existing : Option Value) : Value :=
  match incoming with
  | .table fields _ => mergeFields fields (existing.getD (table [] none))
  | .scalar s o => scalar s o
  | .array items o => array items o

/-- Puts fields into a value, which becomes a table. -/
def mergeFields (incoming : List (String × Value)) (target : Value) : Value :=
  match incoming with
  | [] => target
  | (name, v) :: incoming =>
    let key := Unicode.lowercase name
    let (fields, o) := target.asTable
    mergeFields incoming (table (fields.set key (v.merge (fields.get? key))) o)

end

/-! ### Setting by path -/

/-- The items with a place for a position, and the index of that place. A position beyond the end,
or before the start when it counts from the end, makes room with absent values. -/
def makeRoom (i : Int) (items : List Value) : List Value × Nat :=
  let n := i.natAbs
  if 0 ≤ i then (items ++ List.replicate (n + 1 - items.length) nil, n)
  else (List.replicate (n - items.length) nil ++ items, items.length - n)

/-- **A change at the end of a path.** Values on the way that are no tables or arrays are replaced
by those the path needs. -/
def alter (act : Option Value → Value) : List Step → Option Value → Value
  | [], v => act v
  | .name name :: rest, v =>
    let key := Unicode.lowercase name
    let (fields, o) := (v.getD nil).asTable
    table (fields.set key (alter act rest (fields.get? key))) o
  | .position i :: rest, v =>
    let (items, o) := (v.getD nil).asArray
    let (items, n) := makeRoom i items
    array (items.set n (alter act rest items[n]?)) o

/-- **A value set at the end of a path:** merged where the path ends in a name, put in place where
it ends in a position. -/
def setAt (root : Value) (p : Path) (v : Value) : Value :=
  let act := match p.rest.getLast? with
    | some (.position _) => fun _ => v
    | _ => v.merge
  alter act (.name p.first :: p.rest) (some root)

/-- A field of a source put over a value. Its name is read as a path if it is one. -/
def setField (root : Value) (name : String) (v : Value) : Value :=
  match Path.ofText name with
  | .ok p => root.setAt p v
  | .error _ => root.setAt ⟨name, []⟩ v

end Value
end InlineMarkup.Settings
