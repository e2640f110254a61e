import Std.Data.HashMap
import InlineMarkup.Scan

/-!
# The tokenizer

A nested scan depends only on where it starts, the branch whose interior it reads, the rules it
uses and its depth. Markup that keeps failing to close (`*_*_*_…`) asks for the same nested scans
over and over, so the tokenizer remembers their outcomes for the duration of a call: the time is
then polynomial in the length of the text, where the plain `scan` is exponential.

A `Session` holds what is remembered and the records made so far. Rules are told apart by their
*origin*, a number given to each path of branches whose own grammars led to them.
-/

namespace InlineMarkup

/-- **The identity of a nested scan:** the position where it starts, the origin of its rules, the
kind of the branch it reads and its depth. -/
structure Attempt where
  start : Nat
  origin : Nat
  closing : String
  depth : Nat
  deriving DecidableEq

/-- Attempts are spread by their numbers; kinds are left to comparison. -/
instance : Hashable Attempt where
  hash a := UInt64.ofNat (a.start * 1048573 + a.depth * 8191 + a.origin)

/-- A step from the rules with origin `parent` to the own grammar of a branch of kind `kind`. -/
structure Entrance where
  parent : Nat
  kind : String
  deriving DecidableEq

instance : Hashable Entrance where
  hash e := UInt64.ofNat e.parent

/-- **What one call remembers:** outcomes of nested scans, origins of rules, and the records made,
in order. -/
structure Session where
  outcomes : Std.HashMap Attempt (Option Scan.Closed)
  origins : Std.HashMap Entrance Nat
  records : Array Record

namespace Session

/-- Nothing is remembered at first. -/
def empty : Session := ⟨∅, ∅, #[]⟩

/-- The session with one more record. -/
def record (r : Record) (s : Session) : Session := { s with records := s.records.push r }

/-- **The origin of the rules inside a branch.** A branch without a grammar of its own keeps the
rules around it. Otherwise the origin is looked up, and numbered from one on when it is new; the
rules of the whole text have origin zero. -/
def enter (parent : Nat) (t : TokenType) (s : Session) : Nat × Session :=
  match t.inner? with
  | none => (parent, s)
  | some _ =>
    let entrance : Entrance := ⟨parent, t.kind⟩
    match s.origins[entrance]? with
    | some origin => (origin, s)
    | none =>
      let origin := s.origins.size + 1
      (origin, { s with origins := s.origins.insert entrance origin })

/-- The session with the outcome of an attempt. -/
def remember (a : Attempt) (outcome : Option Scan.Closed) (s : Session) : Session :=
  { s with outcomes := s.outcomes.insert a outcome }

/-- **The scan that remembers.** It is the plain scan of a level whose rules have the given origin,
except that a nested scan is run only if its outcome is not known yet. -/
def scan (limit origin : Nat) (level : Level) (position : Nat) (text : List Char) (s : Session) :
    Option Scan.Closed × Session :=
  match limit with
  | 0 => Scan.walk ⟨none, record⟩ level text position 0 none s
  | limit + 1 =>
    let nested := fun (t : TokenType) position interior s =>
      let (origin, s) := enter origin t s
      let attempt : Attempt := ⟨position, origin, t.kind, level.depth + 1⟩
      match s.outcomes[attempt]? with
      | some outcome => (outcome, s)
      | none =>
        let (outcome, s) := scan limit origin (level.inside t) position interior s
        (outcome, s.remember attempt outcome)
    Scan.walk ⟨some nested, record⟩ level text position 0 none s

end Session

/-- **A tokenizer:** a grammar and the deepest nesting of branches it accepts. -/
structure Tokenizer where
  grammar : Grammar
  maxDepth : Nat := 64

namespace Tokenizer

/-- Reads a text: its tokens, and the records made on the way. Only nested scans can fail to close,
so the whole text always has a result. -/
def run (t : Tokenizer) (text : String) : List Token × List Record :=
  let (closed, s) := Session.scan t.maxDepth 0 (.top t.grammar) 0 text.toList .empty
  ((closed.map Scan.Closed.tokens).getD [], s.records.toList)

/-- The tokens of a text. -/
def tokenize (t : Tokenizer) (text : String) : List Token := (t.run text).1

end Tokenizer
end InlineMarkup
