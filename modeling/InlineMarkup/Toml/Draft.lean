import InlineMarkup.Fields
import InlineMarkup.Toml.Value

/-!
# Tables under construction

A TOML document spreads a table over several places: headers name tables inside tables, dotted
keys reach into them, and a header in double brackets adds an element to an array of tables. What
may still be added to a table depends on how it came about, its `Standing`. A `Draft` takes one
expression after the other and refuses those that define something twice.
-/

namespace InlineMarkup.Toml

/-- **How a table came about:** by its own header or braces, as a table on the way to one with a
header, or as a table on the way to a dotted key. -/
inductive Standing where
  | declared
  | implied
  | dotted
  deriving DecidableEq

/-- **What a key stands for** so far: a complete value, a table that can grow, or an array of
tables of which the last one can. -/
inductive Item where
  | value (v : Value)
  | table (standing : Standing) (fields : List (String × Item))
  | tables (elements : List (List (String × Item)))

/-- **A dotted key:** the keys of the tables to go through, and the key in the last of them. -/
structure Key where
  path : List String
  name : String

mutual

/-- The finished value of an item. -/
def Item.toValue : Item → Value
  | .value v => v
  | .table _ fields => .table (Item.fieldsToValues fields)
  | .tables elements => .array (Item.elementsToValues elements)

/-- The finished values of fields. -/
def Item.fieldsToValues : List (String × Item) → List (String × Value)
  | [] => []
  | (name, item) :: fields => (name, item.toValue) :: fieldsToValues fields

/-- The finished tables of an array of tables. -/
def Item.elementsToValues : List (List (String × Item)) → List Value
  | [] => []
  | fields :: elements => .table (fieldsToValues fields) :: elementsToValues elements

end

/-- **A change of a table further inside.** It goes through the tables of a path, or the last
elements of arrays of tables, and creates the tables that are missing, with the given standing. A
dotted key does not go through a table that was declared elsewhere, nothing goes through a
value. -/
def change (created : Standing) (act : Standing → Fields Item → Option (Fields Item)) :
    List String → Standing → Fields Item → Option (Fields Item)
  | [], standing, fields => act standing fields
  | key :: path, _, fields =>
    match fields.get? key with
    | none =>
      (change created act path created []).map fun inside =>
        fields.set key (.table created inside)
    | some (.value _) => none
    | some (.table standing inside) =>
      if created = .dotted ∧ standing = .declared then none
      else
        (change created act path standing inside).map fun inside =>
          fields.set key (.table standing inside)
    | some (.tables elements) =>
      match elements.getLast? with
      | none => none
      | some inside =>
        (change created act path .declared inside).map fun inside =>
          fields.set key (.tables (elements.dropLast ++ [inside]))

/-- **A value under a dotted key,** which must be new. A key with a path ends in a table made by
dotted keys alone. -/
def putPair (key : Key) (v : Value) : Standing → Fields Item → Option (Fields Item) :=
  change .dotted (fun standing fields =>
    if (key.path.isEmpty ∨ standing = .dotted) ∧ (fields.get? key.name).isNone then
      some (fields.set key.name (.value v))
    else none) key.path

/-- **The table of a header,** new or so far only implied. It stands behind the tables declared
before it. -/
def declareTable (key : Key) : Fields Item → Option (Fields Item) :=
  change .implied (fun _ fields =>
    match fields.get? key.name with
    | none => some (fields.set key.name (.table .declared []))
    | some (.table .implied inside) =>
      some ((fields.erase key.name).set key.name (.table .declared inside))
    | some _ => none) key.path .declared

/-- Another element of an array of tables, which may be new. -/
def addElement (key : Key) : Fields Item → Option (Fields Item) :=
  change .implied (fun _ fields =>
    match fields.get? key.name with
    | none => some (fields.set key.name (.tables [[]]))
    | some (.tables elements) => some (fields.set key.name (.tables (elements ++ [[]])))
    | some _ => none) key.path .declared

/-- **The table in braces** with the given keys and values. -/
def inlineTable? (pairs : List (Key × Value)) : Option Value :=
  (pairs.foldlM (fun fields (key, v) => putPair key v .declared fields) []).map fun fields =>
    .table (Item.fieldsToValues fields)

/-- **An expression** of a document. -/
inductive Expression where
  | pair (key : Key) (v : Value)
  | table (key : Key)
  | element (key : Key)

/-- **A document under construction:** its tables so far, and the path of the table to which pairs
belong. -/
structure Draft where
  root : Fields Item
  current : List String

namespace Draft

/-- A draft before the first expression. -/
def empty : Draft := ⟨[], []⟩

/-- **The draft with one more expression,** if it defines nothing a second time. -/
def add? (d : Draft) : Expression → Option Draft
  | .pair key v =>
    (change .implied (putPair key v) d.current .declared d.root).map fun root =>
      { d with root }
  | .table key => (declareTable key d.root).map fun root => ⟨root, key.path ++ [key.name]⟩
  | .element key => (addElement key d.root).map fun root => ⟨root, key.path ++ [key.name]⟩

/-- The finished fields of the document. -/
def values (d : Draft) : Fields Value := Item.fieldsToValues d.root

end Draft
end InlineMarkup.Toml
