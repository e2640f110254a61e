import InlineMarkup.Token
import InlineMarkup.Text.Bytes

/-!
# Token types and grammars

A grammar is a list of token types in order of priority: of the types that fit at a position the
first one wins. A *leaf* type produces text. It has a `Constraint` that measures how much of the
coming text belongs to it, or none and then fits any single character. A *branch* type is bounded
by two delimiters. What stands between them is read with the branch's own grammar, or with the
surrounding one if it declares none.

`Grammar.ofTypes` accepts a list as a grammar; `Grammar.Valid` says that a grammar and all
grammars inside it have been accepted.
-/

namespace InlineMarkup

/-- **A constraint** measures, in bytes, how much of the coming text belongs to a leaf. -/
structure Constraint where
  measure : List Char → Option Nat

/-- **A kind of token** and how it is recognised. -/
inductive TokenType where
  | leaf (kind : String) (constraint : Option Constraint)
  | branch (kind start stop : String) (inner : Option (List TokenType))

/-- A grammar: token types in order of priority. -/
abbrev Grammar := List TokenType

namespace TokenType

/-- A leaf that fits any single character. -/
def plain (kind : String) : TokenType := .leaf kind none

/-- A leaf that takes what `constraint` measures. -/
def constrained (kind : String) (constraint : Constraint) : TokenType :=
  .leaf kind (some constraint)

/-- A branch between two delimiters, read with the surrounding grammar. -/
def delimited (kind start stop : String) : TokenType := .branch kind start stop none

/-- A branch between two equal delimiters, read with the surrounding grammar. -/
def surround (kind marker : String) : TokenType := delimited kind marker marker

/-- The same branch with a grammar of its own; a leaf has no interior and stays as it is. -/
def withGrammar (g : Grammar) : TokenType → TokenType
  | leaf k c => .leaf k c
  | branch k start stop _ => .branch k start stop (some g)

/-- The type of text that no declared type claims. -/
def word : TokenType := plain wordKind

/-- The name of a type. -/
def kind : TokenType → String
  | leaf k _ => k
  | branch k .. => k

/-- Does the type produce text? -/
def isLeaf : TokenType → Bool
  | leaf .. => true
  | branch .. => false

/-- Does the type measure what it takes? -/
def isConstrained : TokenType → Bool
  | leaf _ c => c.isSome
  | branch .. => false

/-- The opening delimiter of a branch. -/
def start? : TokenType → Option String
  | leaf .. => none
  | branch _ start .. => some start

/-- The closing delimiter of a branch. -/
def stop? : TokenType → Option String
  | leaf .. => none
  | branch _ _ stop _ => some stop

/-- The grammar that a branch declares for its interior. -/
def inner? : TokenType → Option Grammar
  | leaf .. => none
  | branch _ _ _ g => g

/-- Types are told apart by name. -/
def sameKind (a b : TokenType) : Bool := a.kind == b.kind

end TokenType

/-! ### What fits at a position -/

/-- **What a type says of the coming text.** -/
inductive Fit where
  /-- It does not belong to the type. -/
  | none
  /-- The type's constraint gives a length that is no place to cut the text. -/
  | misfit (length : Nat)
  /-- That many bytes belong to the type. -/
  | length (bytes : Nat)
  deriving DecidableEq

/-- The measured length, if it can be used. -/
def Fit.length? : Fit → Option Nat
  | .length n => some n
  | _ => Option.none

namespace TokenType

/-- **The fit of a type** at the coming text. A branch shows its opening delimiter, but inside a
branch of its own kind its closing one. A measured length must be positive and a place to cut. -/
def fit (closing : Option TokenType) (t : TokenType) (coming : List Char) : Fit :=
  match t with
  | leaf _ (some constraint) =>
    match constraint.measure coming with
    | none | some 0 => .none
    | some n => if Text.isBoundary n coming then .length n else .misfit n
  | leaf _ none =>
    match coming with
    | [] => .none
    | c :: _ => .length c.utf8Size
  | branch _ start stop _ =>
    let delimiter := if closing.any t.sameKind then stop else start
    if delimiter.toList.isPrefixOf coming then .length delimiter.utf8ByteSize else .none

/-- The number of bytes that the type takes of the coming text. -/
def matches? (closing : Option TokenType) (t : TokenType) (coming : List Char) : Option Nat :=
  (t.fit closing coming).length?

end TokenType

/-! ### Acceptance -/

/-- Why a list of types is not a grammar. -/
inductive GrammarError where
  | emptyKind
  | reservedKind (kind : String)
  | emptyDelimiter (kind : String)
  | selfNested (kind : String)
  | duplicateKind (kind : String)
  deriving DecidableEq

/-- The wording of a rejection. -/
def GrammarError.message : GrammarError → String
  | emptyKind => "token type kind must not be empty"
  | reservedKind kind => s!"kind `{kind}` is reserved for the catch-all word type"
  | emptyDelimiter kind => s!"branch type `{kind}` has an empty delimiter"
  | duplicateKind kind => s!"kind `{kind}` is declared more than once in the same grammar"
  | selfNested kind => s!"branch type `{kind}` declares its own kind in its inner grammar"

/-- **What is wrong with a type taken by itself.** Its interior is read with the type followed by
its own grammar, where it has to be the only type of its kind: the closing delimiter is found by
kind. -/
def TokenType.fault? (t : TokenType) : Option GrammarError :=
  if t.kind = "" then some .emptyKind
  else if t.kind = wordKind then some (.reservedKind t.kind)
  else match t with
    | .leaf .. => none
    | .branch k start stop inner =>
      if start = "" ∨ stop = "" then some (.emptyDelimiter k)
      else if (inner.getD []).any t.sameKind then some (.selfNested k)
      else none

namespace Grammar

/-- The first fault of a list of types that stands after the types `earlier`. -/
def faultAfter? (earlier : List TokenType) : List TokenType → Option GrammarError
  | [] => none
  | t :: ts =>
    match t.fault? with
    | some e => some e
    | none =>
      if earlier.any t.sameKind then some (.duplicateKind t.kind)
      else faultAfter? (t :: earlier) ts

/-- **Acceptance.** A list of types is a grammar, unchanged, when no type has a fault and no kind
is declared twice; otherwise the first offending type gives the error. -/
def ofTypes (types : List TokenType) : Except GrammarError Grammar :=
  match faultAfter? [] types with
  | some e => .error e
  | none => .ok types

/-- **Valid grammars** are accepted, and so is every grammar inside them. -/
inductive Valid : Grammar → Prop where
  | intro {g : Grammar} (accepted : ofTypes g = .ok g)
      (inside : ∀ t ∈ g, ∀ h, t.inner? = some h → Valid h) : Valid g

/-- The first type of the list itself with the given kind. -/
def own? (kind : String) (g : Grammar) : Option TokenType :=
  List.find? (fun t => t.kind == kind) g

mutual

/-- The first type of the given kind in the grammar that a type declares. -/
def findInside? (kind : String) : TokenType → Option TokenType
  | .branch _ _ _ (some g) => (own? kind g).or (findBelow? kind g)
  | _ => none

/-- The first type of the given kind in the grammars that the types of a list declare. -/
def findBelow? (kind : String) : List TokenType → Option TokenType
  | [] => none
  | t :: ts => (findInside? kind t).or (findBelow? kind ts)

end

/-- **Deep search.** The type of the given kind: in the list itself, else in the grammars inside
it, one after the other and each in depth. -/
def find? (kind : String) (g : Grammar) : Option TokenType :=
  (own? kind g).or (findBelow? kind g)

/-! ### Stock grammars -/

/-- Fences of three marks with a verbatim interior, then code, italic, bold and strike. The fence
comes first, or it would be read as three code markers. -/
def stock : Grammar :=
  [(TokenType.surround "pre" "```").withGrammar [],
   .surround "code" "`",
   .surround "italic" "_",
   .surround "bold" "*",
   .surround "strike" "~"]

end Grammar
end InlineMarkup
