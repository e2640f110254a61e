import InlineMarkup.Toml.DateTable
import InlineMarkup.Toml.Draft
import InlineMarkup.Toml.Scalar

/-!
# TOML documents

`Document.ofText?` reads a document as the fields of its root table. Arrays and tables may be
nested to a fixed depth, and so may dotted keys; the readers of values recurse on what is left of
that depth.
-/

namespace InlineMarkup.Toml

open Reader

/-- One more than the greatest depth of arrays, tables in braces and dotted keys. -/
def depthLimit : Nat := 80

/-! ### Keys -/

/-- May the character stand in a key without quotes? -/
def isBare (c : Char) : Bool := c.isAlphanum || c == '_' || c == '-'

/-- A key without dots, and blanks around it. -/
def simpleKey : Reader String := do
  blanks
  let name ← lineString <|> String.ofList <$> run1 isBare
  blanks
  return name

/-- **A key,** with dots between its parts. -/
def key : Reader Key := do
  let names ← separated (char '.') simpleKey
  guard (names.length < depthLimit)
  match names.getLast? with
  | some name => return ⟨names.dropLast, name⟩
  | none => failure

/-! ### Values -/

/-- Blanks, comments and line ends between the items of an array. -/
def gap : Reader Unit := do
  let _ ← many ((do let _ ← run1 isBlank) <|> newline <|> (do comment; newline))

/-- An array whose items are read by `item`. A comma may follow the last one. -/
def array (item : Reader Value) : Reader Value := do
  char '['
  let items ← separated (char ',') (do gap; let v ← item; gap; return v)
  if !items.isEmpty then
    let _ ← optional (char ',')
  gap
  char ']'
  return .array items

/-- A key and its value. -/
def pair (item : Reader Value) : Reader (Key × Value) := do
  let k ← key
  char '='
  blanks
  return (k, ← item)

/-- A table in braces, on one line. -/
def bracedTable (item : Reader Value) : Reader Value := do
  char '\x7b'
  let pairs ← separated (char ',') (do let p ← pair item; blanks; return p)
  blanks
  char '\x7d'
  match inlineTable? pairs with
  | some v => return v
  | none => failure

/-- **A value** with at most `depth` arrays and tables inside each other. -/
def value : (depth : Nat) → Reader Value
  | 0 => scalar
  | depth + 1 => array (value depth) <|> bracedTable (value depth) <|> scalar

/-! ### Documents -/

/-- The end of a line or of the text. -/
def lineEnd : Reader Unit := newline <|> atEnd

/-- What may follow an expression on its line. -/
def lineRest : Reader Unit := do
  blanks
  let _ ← optional comment
  lineEnd

/-- An expression. -/
def expression : Reader Expression :=
  (do word ['[', '[']; let k ← key; word [']', ']']; return .element k) <|>
  (do char '['; let k ← key; char ']'; return .table k) <|>
  (do let (k, v) ← pair (value (depthLimit - 1)); return .pair k v)

/-- A line, and its expression if it has one. -/
def line : Reader (Option Expression) := do
  blanks
  if (← peek?).isNone then failure
  (do let e ← expression; lineRest; return some e) <|> do lineRest; return none

/-- All expressions of a document. -/
def expressions : Reader (List Expression) := do
  let _ ← optional (char '\uFEFF')
  let lines ← many line
  blanks
  atEnd
  return lines.filterMap id

/-- **The fields of a document;** absent if it breaks a rule of the format, defines a key twice, or
has tables that should stand for dates but do not. The document itself stands for none. -/
def Document.ofText? (text : String) : Option (Fields Value) := do
  let (es, _) ← expressions text.toList
  let draft ← es.foldlM Draft.add? .empty
  guard (!isDateTable draft.values)
  fieldsWithDates? draft.values

end InlineMarkup.Toml
