import InlineMarkup.Token
import InlineMarkup.Json.Tree
import InlineMarkup.Text.Quoted

/-!
# Forests in JSON

A forest is written as an array of objects: a leaf as `{"type": …, "text": …}`, a branch as
`{"type": …, "children": […]}`. `Forest.render` writes it over many lines.

`Forest.ofText` reads it back and accepts no more than tokens with a non-empty payload of one sort,
though a token may also be an array of its type, text and children, and null stands for what is
absent. Of several faults the first in reading order is reported.
-/

namespace InlineMarkup.Json.Forest

/-! ### Writing -/

/-- One character inside a string: controls, quotes and backslashes have escapes. -/
def escapedChar (c : Char) : List Char :=
  match c with
  | '"' => ['\\', '"']
  | '\\' => ['\\', '\\']
  | '\n' => ['\\', 'n']
  | '\r' => ['\\', 'r']
  | '\t' => ['\\', 't']
  | '\x08' => ['\\', 'b']
  | '\x0c' => ['\\', 'f']
  | c =>
    if c.toNat < 0x20 then
      let digits := Nat.toDigits 16 c.toNat
      '\\' :: 'u' :: List.replicate (4 - digits.length) '0' ++ digits
    else [c]

/-- A string in quotation marks. -/
def renderString (s : String) : List Char :=
  '"' :: s.toList.flatMap escapedChar ++ ['"']

/-- A line feed and the blanks before the text of a line, two for each level. -/
def newline (level : Nat) : List Char := '\n' :: List.replicate (2 * level) ' '

mutual

/-- A token whose brackets stand at the given level. -/
def renderToken (level : Nat) : Token → List Char
  | .leaf kind text =>
    '\x7b' :: newline (level + 1) ++ "\"type\": ".toList ++ renderString kind ++ ','
      :: newline (level + 1) ++ "\"text\": ".toList ++ renderString text
      ++ newline level ++ ['\x7d']
  | .branch kind children =>
    '\x7b' :: newline (level + 1) ++ "\"type\": ".toList ++ renderString kind ++ ','
      :: newline (level + 1) ++ "\"children\": ".toList ++ renderForest (level + 1) children
      ++ newline level ++ ['\x7d']

/-- A forest whose brackets stand at the given level. -/
def renderForest (level : Nat) : List Token → List Char
  | [] => ['[', ']']
  | t :: ts =>
    '[' :: newline (level + 1) ++ renderToken (level + 1) t ++ renderRest level ts
      ++ newline level ++ [']']

/-- The tokens after the first one. -/
def renderRest (level : Nat) : List Token → List Char
  | [] => []
  | t :: ts => ',' :: newline (level + 1) ++ renderToken (level + 1) t ++ renderRest level ts

end

/-- **The text of a forest.** -/
def render (ts : List Token) : String := String.ofList (renderForest 0 ts)

/-! ### Faults -/

/-- What stands in the text where something else was wanted. -/
inductive Found where
  | null
  | bool (b : Bool)
  | number (n : Number)
  | string (s : String)
  | array
  | object
  deriving DecidableEq

/-- What was wanted. -/
inductive Wanted where
  | list
  | token
  | string
  deriving DecidableEq

/-- The fields of a token. -/
inductive Field where
  | type
  | text
  | children
  deriving DecidableEq

/-- **What is wrong with a document** that is proper JSON up to that place. -/
inductive ShapeError where
  | wrongType (found : Found) (wanted : Wanted)
  | unknownField (name : String)
  | duplicateField (field : Field)
  | missingType
  | tooShort (length : Nat)
  | bothPayloads (kind : String)
  | noPayload (kind : String)
  | emptyPayload (kind : String)
  deriving DecidableEq

/-- **Why a text is not a forest.** -/
inductive ReadError where
  | text (fault : Fault)
  | shape (e : ShapeError)
  deriving DecidableEq

/-- The wording for what was found. -/
def Found.message : Found → String
  | null => "null"
  | bool b => if b then "boolean `true`" else "boolean `false`"
  | number (.whole n) => s!"integer `{n}`"
  | number (.float x) => "floating point `" ++ x.compact ++ "`"
  | string s => "string " ++ Text.quoted s
  | array => "sequence"
  | object => "map"

/-- The wording for what was wanted. -/
def Wanted.message : Wanted → String
  | list => "a sequence"
  | token => "struct RawToken"
  | string => "a string"

/-- The name of a field. -/
def Field.name : Field → String
  | type => "type"
  | text => "text"
  | children => "children"

/-- The field with the given name. -/
def Field.named? (name : String) : Option Field :=
  [Field.type, .text, .children].find? fun f => f.name = name

/-- The wording of a fault. -/
def ShapeError.message : ShapeError → String
  | wrongType found wanted =>
    "invalid type: " ++ found.message ++ ", expected " ++ wanted.message
  | unknownField name =>
    s!"unknown field `{name}`, expected one of `type`, `text`, `children`"
  | duplicateField field => "duplicate field `" ++ field.name ++ "`"
  | missingType => "missing field `type`"
  | tooShort length =>
    s!"invalid length {length}, expected struct RawToken with 3 elements"
  | bothPayloads kind => s!"token `{kind}` has both `text` and `children`"
  | noPayload kind => s!"token `{kind}` has neither `text` nor `children`"
  | emptyPayload kind => s!"token `{kind}` has an empty payload"

/-! ### Reading -/

/-- The error of a value that is not what was wanted. -/
def mismatch (wanted : Wanted) : Json → ReadError
  | .null => .shape (.wrongType .null wanted)
  | .bool b => .shape (.wrongType (.bool b) wanted)
  | .number n => .shape (.wrongType (.number n) wanted)
  | .string s => .shape (.wrongType (.string s) wanted)
  | .array .. => .shape (.wrongType .array wanted)
  | .object .. => .shape (.wrongType .object wanted)
  | .broken fault => .text fault

/-- The end of an array or object. -/
def closed : Option Fault → Except ReadError Unit
  | none => .ok ()
  | some fault => .error (.text fault)

/-- A string. -/
def readString : Json → Except ReadError String
  | .string s => .ok s
  | v => .error (mismatch .string v)

/-- A string that may be absent. -/
def readText : Json → Except ReadError (Option String)
  | .null => .ok none
  | v => (readString v).map some

/-- **The token with the given fields,** which has one payload, and not an empty one. -/
def assemble (kind : String) (text : Option String) (children : Option (List Token)) :
    Except ReadError Token :=
  match text, children with
  | some _, some _ => .error (.shape (.bothPayloads kind))
  | none, none => .error (.shape (.noPayload kind))
  | some s, none => if s = "" then .error (.shape (.emptyPayload kind)) else .ok (.leaf kind s)
  | none, some [] => .error (.shape (.emptyPayload kind))
  | none, some ts => .ok (.branch kind ts)

/-- The fields of an object met so far. A field that is null has been met all the same. -/
structure Seen where
  type : Option String
  text : Option (Option String)
  children : Option (Option (List Token))

/-- Has the field been met? -/
def Seen.has (s : Seen) : Field → Bool
  | .type => s.type.isSome
  | .text => s.text.isSome
  | .children => s.children.isSome

/-- The token with the fields of an object. -/
def Seen.assemble (s : Seen) : Except ReadError Token :=
  match s.type with
  | none => .error (.shape .missingType)
  | some kind => Forest.assemble kind (s.text.getD none) (s.children.getD none)

mutual

/-- **A token:** an object with its fields or an array of them. -/
def readToken : Json → Except ReadError Token
  | .object fields ending => readFields ending ⟨none, none, none⟩ fields
  | .array items ending => readTriple ending items
  | v => .error (mismatch .token v)

/-- The fields of an object after those met so far. -/
def readFields (ending : Option Fault) (seen : Seen) :
    List (String × Json) → Except ReadError Token
  | [] => do
    closed ending
    seen.assemble
  | (name, v) :: fields =>
    match Field.named? name with
    | none => .error (.shape (.unknownField name))
    | some field =>
      if seen.has field then .error (.shape (.duplicateField field))
      else
        match field with
        | .type => do readFields ending { seen with type := some (← readString v) } fields
        | .text => do readFields ending { seen with text := some (← readText v) } fields
        | .children => do readFields ending { seen with children := some (← readChildren v) } fields

/-- A type, a text and children in an array; anything after them is out of place. -/
def readTriple (ending : Option Fault) : List Json → Except ReadError Token
  | [] => do closed ending; .error (.shape (.tooShort 0))
  | [type] => do
    let _ ← readString type
    closed ending
    .error (.shape (.tooShort 1))
  | [type, text] => do
    let _ ← readString type
    let _ ← readText text
    closed ending
    .error (.shape (.tooShort 2))
  | type :: text :: children :: rest => do
    let type ← readString type
    let text ← readText text
    let children ← readChildren children
    if rest.isEmpty then closed ending else .error (.text .malformed)
    assemble type text children

/-- Children that may be absent. -/
def readChildren : Json → Except ReadError (Option (List Token))
  | .null => .ok none
  | .array items ending => (readItems ending items).map some
  | v => .error (mismatch .list v)

/-- The tokens of an array. -/
def readItems (ending : Option Fault) : List Json → Except ReadError (List Token)
  | [] => (closed ending).map fun _ => []
  | v :: vs => do
    let t ← readToken v
    let ts ← readItems ending vs
    .ok (t :: ts)

end

/-- A forest. -/
def readForest : Json → Except ReadError (List Token)
  | .array items ending => readItems ending items
  | v => .error (mismatch .list v)

/-- The number of arrays and objects that may be inside each other. -/
def maxNesting : Nat := 127

/-- **The forest that a text denotes.** -/
def ofText (text : String) : Except ReadError (List Token) := do
  let d := Document.ofText maxNesting text.toList
  let ts ← readForest d.value
  closed d.ending
  .ok ts

end InlineMarkup.Json.Forest
