import InlineMarkup.Number.Shortest
import InlineMarkup.Number.Word
import InlineMarkup.Settings
import InlineMarkup.Settings.Value
import InlineMarkup.Text.Quoted

/-!
# From values to settings

Scalars are converted generously: numbers, truth values and their usual words stand for each other
where that makes sense. What cannot be converted is reported with the path to it and the file it
comes from. Lists and records are not converted, but a record may also be an array of its fields in
order.
-/

namespace InlineMarkup.Settings

/-! ### Errors -/

/-- The scalars that are asked for. -/
inductive Wanted where
  | integer
  | naturalNumber
  | bool
  | string
  deriving DecidableEq

/-- The records that are asked for. -/
inductive RecordType where
  | tokenizer
  | grammar
  | entry
  deriving DecidableEq

/-- What is there instead. -/
inductive Found where
  | scalar (s : Scalar)
  | array
  | table
  deriving DecidableEq

/-- **Why a value does not give settings.** -/
inductive ConversionError where
  /-- A value that is not, and cannot be made, the scalar asked for. -/
  | scalar (path : List Step) (found : Found) (wanted : Wanted) (origin : Option String)
  /-- A value where a list is asked for. -/
  | notList (found : Found)
  /-- A value where a record is asked for. -/
  | notRecord (found : Found) (wanted : RecordType)
  /-- A record given by name without a field that it needs. -/
  | missingField (name : String)
  /-- A record given by position with too few items. -/
  | tooShort (length : Nat) (wanted : RecordType)
  deriving DecidableEq

/-- The wording for a scalar that is asked for. -/
def Wanted.message : Wanted → String
  | integer => "an integer"
  | naturalNumber => "an unsigned 64 bit or less integer"
  | bool => "a boolean"
  | string => "a string"

/-- The name of a record. -/
def RecordType.name : RecordType → String
  | tokenizer => "TokenizerConfig"
  | grammar => "GrammarConfig"
  | entry => "TokenTypeConfig"

/-- When a field has to be there: always, never, or only in a record given by position. -/
inductive Need where
  | always
  | byPosition
  | never
  deriving DecidableEq

/-- **The fields of a record** in order. -/
def RecordType.fields : RecordType → List (String × Need)
  | tokenizer => [("max_depth", .always)]
  | grammar => [("types", .never)]
  | entry =>
    [("kind", .always), ("surround", .byPosition), ("start", .byPosition), ("end", .byPosition),
     ("grammar", .byPosition), ("verbatim", .never), ("pattern", .byPosition),
     ("literals", .byPosition)]

/-- The wording for what is there; `integer` names whole numbers. -/
def Found.message (integer : String) : Found → String
  | scalar .nil => "unit value"
  | scalar (.bool b) => if b then "boolean `true`" else "boolean `false`"
  | scalar (.integer n) => integer ++ " `" ++ toString n ++ "`"
  | scalar (.float x) => "floating point `" ++ x.pointed .away ++ "`"
  | scalar (.string s) => "string " ++ Text.quoted s
  | array => "sequence"
  | table => "map"

namespace ConversionError

/-- The wording of an error. -/
def message : ConversionError → String
  | scalar path found wanted origin =>
    "invalid type: " ++ found.message "64-bit integer" ++ ", expected " ++ wanted.message ++
      " for key `" ++ pathText path ++ "`" ++ ((origin.map fun o => " in " ++ o).getD "")
  | notList found => "invalid type: " ++ found.message "integer" ++ ", expected a sequence"
  | notRecord found wanted =>
    "invalid type: " ++ found.message "integer" ++ ", expected struct " ++ wanted.name
  | missingField name => "missing field `" ++ name ++ "`"
  | tooShort length wanted =>
    let count := wanted.fields.length
    "invalid length " ++ toString length ++ ", expected struct " ++ wanted.name ++ " with " ++
      toString count ++ (if count = 1 then " element" else " elements")

/-- The error seen from one step further outside. -/
def inside (step : Step) : ConversionError → ConversionError
  | scalar path found wanted origin => scalar (step :: path) found wanted origin
  | e => e

end ConversionError

/-- The outcome of a conversion. -/
abbrev Converted (α : Type) := Except ConversionError α

namespace Value

/-- What is there. -/
def found : Value → Found
  | scalar s _ => .scalar s
  | array .. => .array
  | table .. => .table

/-- The error of a value that is not the scalar asked for. -/
def unfit {α : Type} (wanted : Wanted) (v : Value) : Converted α :=
  .error (.scalar [] v.found wanted v.origin)

/-! ### Scalars -/

/-- Words for the two truth values. -/
def wordValue? (s : String) : Option Bool :=
  if ["true", "on", "yes"].contains s then some true
  else if ["false", "off", "no"].contains s then some false
  else none

/-- The natural number of 64 bits that a text of digits denotes, with or without a plus sign. -/
def naturalNumber? (s : String) : Option Nat :=
  let digits : List Char := match s.toList with
    | '+' :: cs => cs
    | cs => cs
  let n : Nat := digits.foldl (fun n d => n * 10 + (d.toNat - '0'.toNat)) 0
  if !digits.isEmpty ∧ digits.all Char.isDigit ∧ n ≤ Word.maxNat then some n else none

/-- The nearest natural number of 64 bits; zero for what is no number. -/
def nearestNatural (x : Binary64) : Nat :=
  match x with
  | .nan => 0
  | .infinite negative => if negative then 0 else Word.maxNat
  | x => if x.isNegative then 0 else min x.roundedSize Word.maxNat

/-- **A natural number of 64 bits.** -/
def toNatural (v : Value) : Converted Nat :=
  match v with
  | scalar (.integer n) _ => if 0 ≤ n then .ok n.toNat else v.unfit .naturalNumber
  | scalar (.bool b) _ => .ok (if b then 1 else 0)
  | scalar (.float x) _ => .ok (nearestNatural x)
  | scalar (.string s) _ =>
    match wordValue? (Unicode.lowercase s) with
    | some b => .ok (if b then 1 else 0)
    | none =>
      match naturalNumber? s with
      | some n => .ok n
      | none => v.unfit .integer
  | _ => v.unfit .integer

/-- **A truth value.** A string is reported in lower case. -/
def toBool (v : Value) : Converted Bool :=
  match v with
  | scalar (.bool b) _ => .ok b
  | scalar (.integer n) _ => .ok (n ≠ 0)
  | scalar (.float x) _ => .ok !x.isZero
  | scalar (.string s) o =>
    let s := Unicode.lowercase s
    if s = "1" then .ok true
    else if s = "0" then .ok false
    else
      match wordValue? s with
      | some b => .ok b
      | none => (scalar (.string s) o).unfit .bool
  | _ => v.unfit .bool

/-- **A text.** Numbers and truth values are written out. -/
def toText (v : Value) : Converted String :=
  match v with
  | scalar (.string s) _ => .ok s
  | scalar (.bool b) _ => .ok (if b then "true" else "false")
  | scalar (.integer n) _ => .ok (toString n)
  | scalar (.float x) _ => .ok (x.plain .away)
  | _ => v.unfit .string

/-! ### Lists and records -/

/-- What may be absent: `nil` is. -/
def optional {α : Type} (convert : Value → Converted α) : Value → Converted (Option α)
  | scalar .nil _ => .ok none
  | v => (convert v).map some

/-- The items of an array from a position on. -/
def itemsFrom {α : Type} (convert : Value → Converted α) : Nat → List Value → Converted (List α)
  | _, [] => .ok []
  | i, v :: vs => do
    let x ← (convert v).mapError (.inside (.position i))
    return x :: (← itemsFrom convert (i + 1) vs)

/-- **A list.** -/
def toList {α : Type} (convert : Value → Converted α) : Value → Converted (List α)
  | array items _ => itemsFrom convert 0 items
  | v => .error (.notList v.found)

/-- **The parts of a record,** by name or by position. -/
inductive Parts where
  | byName (fields : Fields Value)
  | byPosition (items : List Value)

/-- The parts of a record. -/
def toParts (wanted : RecordType) : Value → Converted Parts
  | table fields _ => .ok (.byName fields)
  | array items _ => .ok (.byPosition items)
  | v => .error (.notRecord v.found wanted)

namespace Parts

/-- The part for a field, and the step to it. -/
def part? (wanted : RecordType) (name : String) : Parts → Option (Step × Value)
  | byName fields => (fields.get? name).map (.name name, ·)
  | byPosition items => do
    let i ← wanted.fields.findIdx? fun f => f.1 = name
    let v ← items[i]?
    return (.position i, v)

/-- A converted field, if it is there. -/
def field {α : Type} (wanted : RecordType) (p : Parts) (name : String)
    (convert : Value → Converted α) : Converted (Option α) :=
  match p.part? wanted name with
  | none => .ok none
  | some (step, v) => ((convert v).mapError (.inside step)).map some

/-- **The first field that has to be there and is not,** as an error. -/
def absent? (wanted : RecordType) : Parts → Option ConversionError
  | byName fields =>
    (wanted.fields.find? fun (name, need) => need = .always ∧ (fields.get? name).isNone).map
      fun (name, _) => .missingField name
  | byPosition items =>
    (wanted.fields.zipIdx.find? fun ((_, need), i) => need ≠ .never ∧ items.length ≤ i).map
      fun (_, i) => .tooShort i wanted

/-- The result of a record, unless a field that has to be there is not. -/
def complete {α : Type} (wanted : RecordType) (p : Parts) (x : α) : Converted α :=
  match p.absent? wanted with
  | some e => .error e
  | none => .ok x

end Parts

/-! ### Settings -/

/-- **An entry.** Faults of its fields come before fields that are not there. -/
def toEntry (v : Value) : Converted Entry := do
  let p ← v.toParts .entry
  let kind ← p.field .entry "kind" toText
  let surround ← p.field .entry "surround" (optional toText)
  let start ← p.field .entry "start" (optional toText)
  let stop ← p.field .entry "end" (optional toText)
  let grammar ← p.field .entry "grammar" (optional (toList toText))
  let verbatim ← p.field .entry "verbatim" toBool
  let pattern ← p.field .entry "pattern" (optional toText)
  let literals ← p.field .entry "literals" (optional (toList toText))
  p.complete .entry {
    kind := kind.getD ""
    surround := surround.join
    start := start.join
    stop := stop.join
    grammar := grammar.join
    verbatim := verbatim.getD false
    pattern := pattern.join
    literals := literals.join }

/-- The nesting limit. -/
def toMaxDepth (v : Value) : Converted Nat := do
  let p ← v.toParts .tokenizer
  let n ← p.field .tokenizer "max_depth" toNatural
  p.complete .tokenizer (n.getD 0)

/-- The entries of the grammar, none by default. -/
def toEntries (v : Value) : Converted (List Entry) := do
  let p ← v.toParts .grammar
  let entries ← p.field .grammar "types" (toList toEntry)
  p.complete .grammar (entries.getD [])

/-- **The settings that a table holds.** Other names in it have no meaning. -/
def toSettings (v : Value) : Converted Settings :=
  let fields := v.asTable.1
  match fields.get? "tokenizer", fields.get? "grammar" with
  | none, _ => .error (.missingField "tokenizer")
  | some _, none => .error (.missingField "grammar")
  | some tokenizer, some grammar => do
    let maxDepth ← tokenizer.toMaxDepth.mapError (.inside (.name "tokenizer"))
    let entries ← grammar.toEntries.mapError (.inside (.name "grammar"))
    return ⟨maxDepth, entries⟩

/-! ### And back -/

/-- A string from nowhere. -/
def ofText (s : String) : Value := scalar (.string s) none

/-- A list of strings from nowhere. -/
def ofTexts (ss : List String) : Value := array (ss.map ofText) none

/-- **The value of an entry:** a table with what is set in it. -/
def ofEntry (e : Entry) : Value :=
  let set := fun (name : String) (v : Option Value) => (v.map (name, ·)).toList
  table
    (("kind", ofText e.kind) ::
      (set "surround" (e.surround.map ofText) ++ set "start" (e.start.map ofText) ++
        set "end" (e.stop.map ofText) ++ set "grammar" (e.grammar.map ofTexts) ++
        (if e.verbatim then [("verbatim", scalar (.bool true) none)] else []) ++
        set "pattern" (e.pattern.map ofText) ++ set "literals" (e.literals.map ofTexts))) none

/-- **The value of settings,** from which `toSettings` gives them back. -/
def ofSettings (s : Settings) : Value :=
  table
    [("tokenizer", table [("max_depth", scalar (.integer s.maxDepth) none)] none),
     ("grammar", table [("types", array (s.entries.map ofEntry) none)] none)] none

end Value
end InlineMarkup.Settings
