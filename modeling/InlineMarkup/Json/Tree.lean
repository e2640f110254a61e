import InlineMarkup.Json.Lexeme

/-!
# JSON documents

`Json` is the tree that a text denotes. A text with a fault still denotes the part of a tree that
stands before the fault, with the fault in its place: a reader of the tree that goes from left to
right meets it exactly when it has used everything before it. `Document.ofText` builds the tree
from lexemes with an explicit stack of the arrays and objects that are open.
-/

namespace InlineMarkup

/-- **A JSON value.** Arrays and objects end properly, or with a fault. -/
inductive Json where
  | null
  | bool (b : Bool)
  | number (n : Json.Number)
  | string (s : String)
  | array (items : List Json) (ending : Option Json.Fault)
  | object (fields : List (String × Json)) (ending : Option Json.Fault)
  /-- A value that does not even begin. -/
  | broken (fault : Json.Fault)

namespace Json

/-- **A text read as one value,** and what is wrong with anything after it. -/
structure Document where
  value : Json
  ending : Option Fault

/-- An open array with its items so far, or an open object with its fields so far and the name of
the field being read. Both are kept in reverse. -/
inductive Frame where
  | array (items : List Json)
  | object (fields : List (String × Json)) (name : String)

/-- The value of a frame that ends with `v`, broken off there. -/
def Frame.breakOff (fault : Fault) (v : Json) : Frame → Json
  | .array items => .array (v :: items).reverse (some fault)
  | .object fields name => .object ((name, v) :: fields).reverse (some fault)

/-- The whole value when `v`, inside the given frames, is broken off. -/
def breakOff (fault : Fault) (v : Json) (stack : List Frame) : Document :=
  ⟨stack.foldl (fun v frame => frame.breakOff fault v) v, none⟩

/-- **What may come next,** inside the frames of a stack. -/
inductive Want where
  /-- A value. -/
  | value
  /-- A value or the end of the array just opened. -/
  | firstItem
  /-- A comma or the end of the array with the given items. -/
  | afterItem (items : List Json)
  /-- The name of a field or the end of the object just opened. -/
  | firstName
  /-- The name of another field of the object with the given fields. -/
  | name (fields : List (String × Json))
  /-- The colon after the name of a field. -/
  | colon (fields : List (String × Json)) (name : String)
  /-- A comma or the end of the object with the given fields. -/
  | afterField (fields : List (String × Json))
  /-- Nothing: the text is complete. -/
  | nothing (v : Json)

/-- The document when a fault stands where something else was wanted. -/
def breakAt (fault : Fault) (stack : List Frame) : Want → Document
  | .value => breakOff fault (.broken fault) stack
  | .firstItem => breakOff fault (.broken fault) (.array [] :: stack)
  | .afterItem items => breakOff fault (.array items.reverse (some fault)) stack
  | .firstName => breakOff fault (.object [] (some fault)) stack
  | .name fields => breakOff fault (.object fields.reverse (some fault)) stack
  | .colon fields name => breakOff fault (.broken fault) (.object fields name :: stack)
  | .afterField fields => breakOff fault (.object fields.reverse (some fault)) stack
  | .nothing v => ⟨v, some fault⟩

/-- **The outcome of a lexeme:** reading goes on, or the document is settled by a fault. -/
inductive Progress where
  | goOn (want : Want) (stack : List Frame)
  | settled (d : Document)

/-- A value has been read inside the given frames. -/
def complete (v : Json) : List Frame → Progress
  | [] => .goOn (.nothing v) []
  | .array items :: stack => .goOn (.afterItem (v :: items)) stack
  | .object fields name :: stack => .goOn (.afterField ((name, v) :: fields)) stack

/-- **A lexeme where a value is wanted.** At most `limit` arrays and objects are inside each other;
one too many is found to be broken right after its bracket. -/
def readValue (limit : Nat) (stack : List Frame) : Lexeme → Progress
  | .null => complete .null stack
  | .bool b => complete (.bool b) stack
  | .number n => complete (.number n) stack
  | .string s => complete (.string s) stack
  | .openArray =>
    if stack.length < limit then .goOn .firstItem stack
    else .settled (breakOff .malformed (.array [] (some .malformed)) stack)
  | .openObject =>
    if stack.length < limit then .goOn .firstName stack
    else .settled (breakOff .malformed (.object [] (some .malformed)) stack)
  | .broken fault _ => .settled (breakAt fault stack .value)
  | _ => .settled (breakAt .malformed stack .value)

/-- **One lexeme** where something is wanted inside the given frames. A broken lexeme has its own
fault only where its beginning would have been in place. -/
def read (limit : Nat) (want : Want) (stack : List Frame) (l : Lexeme) : Progress :=
  let misplaced := Progress.settled (breakAt .malformed stack want)
  match want, l with
  | .value, l => readValue limit stack l
  | .firstItem, .closeArray => complete (.array [] none) stack
  | .firstItem, l => readValue limit (.array [] :: stack) l
  | .afterItem items, .comma => .goOn .value (.array items :: stack)
  | .afterItem items, .closeArray => complete (.array items.reverse none) stack
  | .firstName, .closeObject => complete (.object [] none) stack
  | .firstName, .string name => .goOn (.colon [] name) stack
  | .name fields, .string name => .goOn (.colon fields name) stack
  | .firstName, .broken fault true => .settled (breakAt fault stack .firstName)
  | .name fields, .broken fault true => .settled (breakAt fault stack (.name fields))
  | .colon fields name, .colon => .goOn .value (.object fields name :: stack)
  | .afterField fields, .comma => .goOn (.name fields) stack
  | .afterField fields, .closeObject => complete (.object fields.reverse none) stack
  | _, _ => misplaced

/-- The document of the lexemes to come. -/
def build (limit : Nat) (want : Want) (stack : List Frame) : List Lexeme → Document
  | [] =>
    match want with
    | .nothing v => ⟨v, none⟩
    | want => breakAt .incomplete stack want
  | l :: ls =>
    match read limit want stack l with
    | .goOn want stack => build limit want stack ls
    | .settled d => d

/-- **The document of a text,** in which at most `limit` arrays and objects are inside each
other. -/
def Document.ofText (limit : Nat) (text : List Char) : Document :=
  build limit .value [] (lexemes text)

end Json
end InlineMarkup
