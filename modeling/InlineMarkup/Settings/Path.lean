import InlineMarkup.Number.Word

/-!
# Paths to settings

A path names a place in nested tables and arrays: `grammar.types[0].kind`. It begins with a name;
names are joined by points, positions stand in brackets and may count from the end.
-/

namespace InlineMarkup.Settings

/-- **A step** from a value to a part of it. -/
inductive Step where
  | name (key : String)
  | position (i : Int)
  deriving DecidableEq

/-- A path: the name of a value at the top and the steps from there. -/
structure Path where
  first : String
  rest : List Step
  deriving DecidableEq

/-- Why a text is not a path. -/
inductive PathError where
  /-- It does not begin with a name. -/
  | noName
  /-- What follows is neither a name nor a position. -/
  | noStep
  /-- A bracket is not followed by a number. -/
  | noDigits
  /-- A position does not fit into 64 bits. -/
  | outOfRange
  deriving DecidableEq

/-- The wording of an error. -/
def PathError.message : PathError → String
  | noName => "IsA"
  | noStep => "Char"
  | noDigits => "Digit"
  | outOfRange => "Map on Result"

/-- May the character stand in a name? -/
def isNameChar (c : Char) : Bool := c.isAlphanum || c == ' ' || c == '_' || c == '-'

/-- Is it a blank around a position? -/
def isGap (c : Char) : Bool := c == ' ' || c == '\t'

/-- A position up to its closing bracket, and the text behind it. -/
def readPosition (cs : List Char) : Except PathError (Int × List Char) :=
  let cs := cs.dropWhile isGap
  let (negative, cs) := match cs with
    | '-' :: cs => (true, cs)
    | cs => (false, cs)
  let digits := cs.takeWhile Char.isDigit
  let size : Nat := digits.foldl (fun n d => n * 10 + (d.toNat - '0'.toNat)) 0
  let i : Int := if negative then -(size : Int) else size
  if digits.isEmpty then .error .noDigits
  else if !Word.fitsInt i then .error .outOfRange
  else
    match (cs.dropWhile Char.isDigit).dropWhile isGap with
    | ']' :: cs => .ok (i, cs)
    | _ => .error .noStep

/-- One step, and the text behind it. -/
def readStep : List Char → Except PathError (Step × List Char)
  | '.' :: cs =>
    match cs.takeWhile isNameChar with
    | [] => .error .noStep
    | name => .ok (.name (String.ofList name), cs.dropWhile isNameChar)
  | '[' :: cs => (readPosition cs).map fun (i, cs) => (.position i, cs)
  | _ => .error .noStep

/-- All steps of a text. Each takes a character, so the length of the text is fuel enough. -/
def readSteps : (fuel : Nat) → List Char → Except PathError (List Step)
  | _, [] => .ok []
  | 0, _ => .error .noStep
  | fuel + 1, cs => do
    let (step, cs) ← readStep cs
    return step :: (← readSteps fuel cs)

/-- **The path that a text denotes.** -/
def Path.ofText (text : String) : Except PathError Path :=
  let cs := text.toList
  match cs.takeWhile isNameChar with
  | [] => .error .noName
  | name => (readSteps cs.length (cs.dropWhile isNameChar)).map (⟨String.ofList name, ·⟩)

/-- **The text of steps.** A point stands between two names, and none behind a position. -/
def pathText : List Step → String
  | [] => ""
  | .name key :: rest =>
    match rest with
    | .name _ :: _ => key ++ "." ++ pathText rest
    | _ => key ++ pathText rest
  | .position i :: rest => "[" ++ toString i ++ "]" ++ pathText rest

end InlineMarkup.Settings
