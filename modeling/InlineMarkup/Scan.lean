import InlineMarkup.Grammar
import InlineMarkup.Record

/-!
# Scanning one level of a text

A scan reads one level of marked-up text, the whole of it or the interior of one branch, character
by character. At each position the first rule that fits decides, text that no rule claims being
of the catch-all kind:

* the kind of the leaf under way: the leaf grows by the character;
* the branch whose interior this is: its closing delimiter has been found and the scan ends, the
  delimiter itself being left to the caller;
* another leaf type: a new leaf begins, and a measured length of more than one character becomes a
  leaf of exactly that length at once;
* a branch type: a nested scan reads the interior. If it runs out of text, or finds no token
  before the closing delimiter, the branch is given up and the character is text.

`walk` is that loop. It leaves two things to a `Host`: how a nested scan is answered, and where
records go. `scan` answers a nested scan by running it; the tokenizer does so only where it has no
answer yet.
-/

namespace InlineMarkup

/-- **What is read at one level:** the rules in order of priority, the branch whose closing
delimiter ends the level, and the number of branches around it. -/
structure Level where
  rules : Grammar
  closing : Option TokenType
  depth : Nat

namespace Level

/-- The level of a whole text. -/
def top (g : Grammar) : Level := ⟨g, none, 0⟩

/-- The rules inside a branch: the branch followed by its own grammar, or the rules around it. -/
def rulesInside (level : Level) (t : TokenType) : Grammar :=
  match t.inner? with
  | some g => t :: g
  | none => level.rules

/-- The level inside a branch. -/
def inside (level : Level) (t : TokenType) : Level :=
  ⟨level.rulesInside t, some t, level.depth + 1⟩

end Level

/-- A type together with the number of bytes that it takes of the coming text. -/
structure Match where
  type : TokenType
  length : Nat

/-- **The first of a list of rules that fits,** and a record for each rule before it whose
constraint measured a length that cannot be used. -/
def Match.first? (closing : Option TokenType) (coming : List Char) :
    List TokenType → List Record × Option Match
  | [] => ([], none)
  | t :: ts =>
    match t.fit closing coming with
    | .length n => ([], some ⟨t, n⟩)
    | .none => first? closing coming ts
    | .misfit n =>
      let (records, found) := first? closing coming ts
      (.misfit t.kind n (Text.byteLength coming) :: records, found)

namespace Scan

/-- A leaf under way. -/
structure Leaf where
  kind : String
  text : String

namespace Leaf

/-- The token of a finished leaf. -/
def token (l : Leaf) : Token := .leaf l.kind l.text

/-- The tokens of what was under way: a leaf or nothing. -/
def finish (pending : Option Leaf) : List Token := (pending.map token).toList

/-- One more character of the given kind. It goes to the leaf under way if that has the kind; else
that leaf is finished and a new one begins. -/
def absorb (kind : String) (c : Char) (pending : Option Leaf) : List Token × Leaf :=
  match pending with
  | some l =>
    if l.kind = kind then ([], { l with text := l.text.push c })
    else ([l.token], ⟨kind, c.toString⟩)
  | none => ([], ⟨kind, c.toString⟩)

end Leaf

/-- **The result of a scan that ended properly:** its tokens and the number of bytes before the
closing delimiter, or before the end of the text at the top. -/
structure Closed where
  tokens : List Token
  consumed : Nat

/-- The result of a scan that had first produced `tokens` from `bytes` bytes. -/
def Closed.after (tokens : List Token) (bytes : Nat) (c : Closed) : Closed :=
  ⟨tokens ++ c.tokens, bytes + c.consumed⟩

/-- **What a scan asks of its surroundings.** `nested` answers the scan of a branch's interior,
which starts at the given position and is followed by the given text; it is absent where no
further nesting is allowed. `record` takes a record. -/
structure Host (σ : Type) where
  nested : Option (TokenType → Nat → List Char → σ → Option Closed × σ)
  record : Record → σ → σ

variable {σ : Type}

/-- **The attempt to open a branch.** Its opening delimiter stands at `position` and is followed by
`interior`. The answer is that of the nested scan, unless there is nothing to scan, the nesting is
at its limit, or the branch turns out to be empty. -/
def openBranch (host : Host σ) (level : Level) (t : TokenType) (start : String) (position : Nat)
    (interior : List Char) (s : σ) : Option Closed × σ :=
  if interior.isEmpty then (none, s)
  else
    match host.nested with
    | none => (none, host.record (.depthLimit t.kind position level.depth) s)
    | some nested =>
      match nested t (position + start.utf8ByteSize) interior s with
      | (none, s) => (none, s)
      | (some closed, s) =>
        if closed.tokens.isEmpty then (none, host.record (.emptyBranch t.kind position) s)
        else (some closed, s)

/-- **What a scan does with a character.** -/
inductive Action where
  /-- The level ends before it. -/
  | close
  /-- It belongs to a leaf of the given kind. -/
  | absorb (kind : String)
  /-- It is the first of a token that covers `length` bytes. -/
  | emit (token : Token) (length : Nat)

/-- **The decision at a character** `c` at `position`, with `cs` to follow and `pending` the leaf
under way, once `found` is known to be what the rules say of it. -/
def act (host : Host σ) (level : Level) (position : Nat) (pending : Option Leaf) (c : Char)
    (cs : List Char) (found : Match) (s : σ) : Action × σ :=
  if pending.any fun l => l.kind == found.type.kind then (.absorb found.type.kind, s)
  else if level.closing.any found.type.sameKind then (.close, s)
  else
    match found.type with
    | .leaf kind _ =>
      if found.length > c.utf8Size then
        let text := String.ofList (Text.takeBytes found.length (c :: cs))
        (.emit (.leaf kind text) found.length, s)
      else (.absorb kind, s)
    | .branch kind start stop _ =>
      let interior := Text.dropBytes start.utf8ByteSize (c :: cs)
      match openBranch host level found.type start position interior s with
      | (some closed, s) =>
        let length := start.utf8ByteSize + closed.consumed + stop.utf8ByteSize
        (.emit (.branch kind closed.tokens) length, s)
      | (none, s) => (.absorb wordKind, s)

/-- Hands a result on with what was produced before it. -/
def prepend (tokens : List Token) (bytes : Nat) (r : Option Closed × σ) : Option Closed × σ :=
  (r.1.map (Closed.after tokens bytes), r.2)

/-- **The loop over the characters of one level.** The last token produced may cover the first
`covered` bytes of the text, which are then passed over; `position` is where scanning goes on
behind them. `pending` is the leaf under way. The result is absent when the text ends before the
closing delimiter. -/
def walk (host : Host σ) (level : Level) :
    List Char → (position covered : Nat) → Option Leaf → σ → Option Closed × σ
  | [], _, _, pending, s =>
    match level.closing with
    | some b => (none, host.record (.unclosed b.kind level.depth) s)
    | none => (some ⟨Leaf.finish pending, 0⟩, s)
  | c :: cs, position, covered + 1, pending, s =>
    walk host level cs position (covered + 1 - c.utf8Size) pending s
  | c :: cs, position, 0, pending, s =>
    let (records, found) := Match.first? level.closing (c :: cs) level.rules
    let s := records.foldl (fun s r => host.record r s) s
    match act host level position pending c cs (found.getD ⟨.word, c.utf8Size⟩) s with
    | (.close, s) => (some ⟨Leaf.finish pending, 0⟩, s)
    | (.absorb kind, s) =>
      let (done, leaf) := Leaf.absorb kind c pending
      prepend done c.utf8Size (walk host level cs (position + c.utf8Size) 0 (some leaf) s)
    | (.emit token length, s) =>
      prepend (Leaf.finish pending ++ [token]) length
        (walk host level cs (position + length) (length - c.utf8Size) none s)

end Scan

open Scan

/-- **The plain scan** of a level whose text stands at `position`. Each nested scan is run where it
is asked for, and `limit` is the number of further levels allowed. -/
def scan {σ : Type} (record : Record → σ → σ) (limit : Nat) (level : Level) (position : Nat)
    (text : List Char) (s : σ) : Option Closed × σ :=
  match limit with
  | 0 => walk ⟨none, record⟩ level text position 0 none s
  | limit + 1 =>
    let nested := fun t position interior s =>
      scan record limit (level.inside t) position interior s
    walk ⟨some nested, record⟩ level text position 0 none s

end InlineMarkup
