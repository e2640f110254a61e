/-!
# Tokens

The result of reading marked-up text is a forest of tokens. A leaf holds the text it covers, a
branch the tokens found between its delimiters; both carry the kind that produced them. Delimiters
are not kept: `Token.textContent` is the text of the leaves alone.
-/

namespace InlineMarkup

/-- **A token:** a leaf with its text or a branch with the tokens inside it. -/
inductive Token where
  | leaf (kind text : String)
  | branch (kind : String) (children : List Token)
  deriving Inhabited

/-- The catch-all kind of text that no declared type claims. -/
def wordKind : String := "word"

namespace Token

/-- A leaf of the catch-all kind. -/
def word (text : String) : Token := .leaf wordKind text

/-- The name of the type that produced the token. -/
def kind : Token → String
  | leaf k _ => k
  | branch k _ => k

/-- Does the token hold text rather than tokens? -/
def isLeaf : Token → Bool
  | leaf .. => true
  | branch .. => false

/-- The text of a leaf. -/
def text? : Token → Option String
  | leaf _ t => some t
  | branch .. => none

/-- The tokens inside a branch. -/
def children? : Token → Option (List Token)
  | leaf .. => none
  | branch _ ts => some ts

mutual

/-- **Equality of tokens is decidable,** child by child. -/
protected def decEq : (a b : Token) → Decidable (a = b)
  | leaf k t, leaf k' t' =>
    if h : k = k' ∧ t = t' then isTrue (by rw [h.1, h.2])
    else isFalse fun e => by injection e with e₁ e₂; exact h ⟨e₁, e₂⟩
  | branch k ts, branch k' ts' =>
    if hk : k = k' then
      match Token.decEqList ts ts' with
      | isTrue h => isTrue (by rw [hk, h])
      | isFalse h => isFalse fun e => by injection e with _ e₂; exact h e₂
    else isFalse fun e => by injection e with e₁ _; exact hk e₁
  | leaf .., branch .. => isFalse nofun
  | branch .., leaf .. => isFalse nofun

/-- Equality of token lists is decidable. -/
protected def decEqList : (as bs : List Token) → Decidable (as = bs)
  | [], [] => isTrue rfl
  | [], _ :: _ => isFalse nofun
  | _ :: _, [] => isFalse nofun
  | a :: as, b :: bs =>
    match Token.decEq a b with
    | isFalse h => isFalse fun e => by injection e with e₁ _; exact h e₁
    | isTrue h =>
      match Token.decEqList as bs with
      | isTrue h' => isTrue (by rw [h, h'])
      | isFalse h' => isFalse fun e => by injection e with _ e₂; exact h' e₂

end

instance : DecidableEq Token := Token.decEq

mutual

/-- **The text of a token:** the texts of its leaves in order, delimiters left out. -/
def textContent : Token → String
  | leaf _ t => t
  | branch _ ts => textOfList ts

/-- The texts of the leaves of a forest in order. -/
def textOfList : List Token → String
  | [] => ""
  | t :: ts => t.textContent ++ textOfList ts

end

/-- One stop of a walk: how deep it is and the token standing there. -/
structure Visit where
  depth : Nat
  token : Token

mutual

/-- **The walk of a token** standing at `depth`: the token, then its children one level deeper, a
parent always before what it holds. -/
def walkFrom (depth : Nat) : Token → List Visit
  | leaf k t => [⟨depth, .leaf k t⟩]
  | branch k ts => ⟨depth, .branch k ts⟩ :: walkList (depth + 1) ts

/-- The walks of a forest whose roots stand at `depth`, one after the other. -/
def walkList (depth : Nat) : List Token → List Visit
  | [] => []
  | t :: ts => walkFrom depth t ++ walkList depth ts

end

/-- The walk of a token as a root. -/
def walk (t : Token) : List Visit := t.walkFrom 0

/-- **An empty token:** a leaf without text or a branch without children. -/
def isEmpty : Token → Bool
  | leaf _ t => t.isEmpty
  | branch _ ts => ts.isEmpty

/-- The first empty token that walking the roots of a forest in turn meets. -/
def firstEmpty? (ts : List Token) : Option Visit :=
  (ts.flatMap walk).find? fun v => v.token.isEmpty

/-- What is wrong with an empty token, and where. -/
def Visit.emptyMessage (v : Visit) : String :=
  let shape := if v.token.isLeaf then "leaf" else "branch"
  s!"empty `{v.token.kind}` {shape} at depth {v.depth}"

end Token
end InlineMarkup
