import InlineMarkup.Pattern
import InlineMarkup.Record

/-!
# Entries of a configuration

A configured grammar is a list of entries. An entry with delimiters describes a branch, any other a
leaf; which settings go together is checked when the entry is turned into a type (`Entry.build`).
The grammar of a branch is given by the kinds of entries that stand before it, so entries are built
one after the other (`Entry.buildAll`).
-/

namespace InlineMarkup

/-- **The description of one token type.** -/
structure Entry where
  kind : String
  /-- Both delimiters of a branch. -/
  surround : Option String := none
  /-- The opening delimiter of a branch. -/
  start : Option String := none
  /-- The closing delimiter of a branch. -/
  stop : Option String := none
  /-- The kinds that a branch may hold; those around it if not given. -/
  grammar : Option (List String) := none
  /-- Is the interior of a branch plain text? -/
  verbatim : Bool := false
  /-- The pattern of a leaf. -/
  pattern : Option String := none
  /-- The words of a leaf, the first that fits taking precedence. -/
  literals : Option (List String) := none
  deriving DecidableEq

/-- Settings of one entry that exclude each other. -/
inductive Conflict where
  | surroundAndEnds
  | oneEnd
  | measuredBranch
  | verbatimGrammar
  | leafInterior
  | patternAndLiterals
  deriving DecidableEq

/-- **Why entries do not give a grammar.** -/
inductive BuildError where
  /-- Types that are not a grammar, at the top or inside a branch. -/
  | grammar (e : GrammarError)
  /-- A kind that no earlier entry declares. -/
  | unknownKind (kind reference : String)
  /-- A text that is not a pattern. -/
  | invalidPattern (kind : String)
  | conflicting (kind : String) (reason : Conflict)
  deriving DecidableEq

/-- The wording of a conflict. -/
def Conflict.message : Conflict → String
  | surroundAndEnds => "`surround` excludes `start` and `end`"
  | oneEnd => "`start` and `end` must be set together"
  | measuredBranch => "branch types take no `pattern` or `literals`"
  | verbatimGrammar => "`verbatim` excludes `grammar`"
  | leafInterior => "leaf types have no interior grammar"
  | patternAndLiterals => "`pattern` excludes `literals`"

/-- The wording of an error. -/
def BuildError.message : BuildError → String
  | grammar e => e.message
  | unknownKind kind reference =>
    s!"`{kind}` refers to `{reference}`, which is not declared before it"
  | invalidPattern kind => s!"invalid pattern for `{kind}`"
  | conflicting kind reason => s!"`{kind}`: " ++ reason.message

namespace Entry

/-- The opening and the closing delimiter, if the entry describes a branch. -/
def delimiters (e : Entry) : Except Conflict (Option (String × String)) :=
  match e.surround, e.start, e.stop with
  | some marker, none, none => .ok (some (marker, marker))
  | none, some start, some stop => .ok (some (start, stop))
  | none, none, none => .ok none
  | some _, _, _ => .error .surroundAndEnds
  | none, _, _ => .error .oneEnd

/-- The grammar of the given kinds, each declared among the types `declared`. -/
def resolve (kind : String) (declared : List TokenType) (kinds : List String) :
    Except BuildError Grammar := do
  let types ← kinds.mapM fun reference =>
    match Grammar.own? reference declared with
    | some t => .ok t
    | none => .error (.unknownKind kind reference)
  (Grammar.ofTypes types).mapError .grammar

/-- The branch with the given delimiters. -/
def buildBranch (declared : List TokenType) (e : Entry) (start stop : String) :
    Except BuildError TokenType :=
  let branch := TokenType.delimited e.kind start stop
  if e.pattern.isSome ∨ e.literals.isSome then .error (.conflicting e.kind .measuredBranch)
  else
    match e.grammar, e.verbatim with
    | some _, true => .error (.conflicting e.kind .verbatimGrammar)
    | some kinds, false => (resolve e.kind declared kinds).map branch.withGrammar
    | none, true => .ok (branch.withGrammar [])
    | none, false => .ok branch

/-- The leaf that the entry describes. -/
def buildLeaf (e : Entry) : Except BuildError TokenType :=
  if e.grammar.isSome ∨ e.verbatim then .error (.conflicting e.kind .leafInterior)
  else
    match e.pattern, e.literals with
    | some pattern, none =>
      match Constraint.ofPattern? pattern with
      | some c => .ok (.constrained e.kind c)
      | none => .error (.invalidPattern e.kind)
    | none, some words => .ok (.constrained e.kind (.literals words))
    | none, none => .ok (.plain e.kind)
    | some _, some _ => .error (.conflicting e.kind .patternAndLiterals)

/-- **The type that the entry describes** after the types `declared`. -/
def build (declared : List TokenType) (e : Entry) : Except BuildError TokenType :=
  match e.delimiters with
  | .error reason => .error (.conflicting e.kind reason)
  | .ok (some (start, stop)) => e.buildBranch declared start stop
  | .ok none => e.buildLeaf

/-- **The types of entries in order,** after the types `declared`. The first entry that cannot be
built gives the error. -/
def buildAll (declared : List TokenType) : List Entry → Except BuildError (List TokenType)
  | [] => .ok declared
  | e :: es =>
    match e.build declared with
    | .error err => .error err
    | .ok t => buildAll (declared ++ [t]) es

end Entry
end InlineMarkup
