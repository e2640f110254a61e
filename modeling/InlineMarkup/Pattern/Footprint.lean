import InlineMarkup.Pattern.Node
import InlineMarkup.Text.ByteRange

/-!
# The size of patterns

A pattern is only accepted if automata that read its matches byte by byte, one forward and one
backward, stay within a limit. This module counts the states of these automata and the bytes that
they take, without building them.

A state takes a fixed number of bytes, and more for every range that it branches on and for every
way out of a fork. Repetitions are written out, groups are marked in the forward automaton, and
alternatives that are all literals share their beginnings. The states for a class of characters are
shared where the characters end alike, as far as a table of limited size remembers them.
-/

namespace InlineMarkup.Pattern

open Text (ByteRange byteRanges)

/-- **What an automaton takes:** the number of its states and their bytes. -/
structure Footprint where
  states : Nat
  bytes : Nat
  deriving DecidableEq

/-- What a part adds to an automaton. -/
abbrev Growth := Footprint → Footprint

namespace Footprint

/-- The greatest number of bytes of an automaton. -/
def limit : Nat := 10485760

/-- The bytes of a state. -/
def stateSize : Nat := 32

/-- The bytes of a range that a state branches on. -/
def rangeSize : Nat := 8

/-- The bytes of a way out of a fork. -/
def waySize : Nat := 4

/-- No automaton yet. -/
def zero : Footprint := ⟨0, 0⟩

/-- Is the limit passed? -/
def isOver (f : Footprint) : Bool := decide (limit < f.bytes)

/-- **One more state,** with what it takes beyond the bytes of any state. -/
def add (extra : Nat) : Growth := fun f => ⟨f.states + 1, f.bytes + stateSize + extra⟩

/-- A state with one way out. -/
def step : Growth := add 0

/-- A state that branches on ranges. -/
def branch (ranges : Nat) : Growth := add (rangeSize * ranges)

/-- A fork. -/
def fork (ways : Nat) : Growth := add (waySize * ways)

/-- Equally many states with one way out. -/
def steps (n : Nat) : Growth := fun f => ⟨f.states + n, f.bytes + stateSize * n⟩

/-- The same growth a number of times, as long as the limit is not passed. -/
def again (g : Growth) : Nat → Growth
  | 0, f => f
  | n + 1, f => if f.isOver then f else again g n (g f)

/-! ### Classes -/

/-- The number that the slot of a table follows from: every value is mixed into it in turn. -/
def mix (values : List Nat) : UInt64 :=
  values.foldl (fun h n => (h ^^^ n.toUInt64) * 1099511628211) 14695981039346656037

/-- **A table of states with a fixed number of slots.** A slot holds what was put there last. -/
abbrev Memory := Array (Option (List Nat × Nat))

namespace Memory

/-- An empty table. -/
def empty (slots : Nat) : Memory := Array.replicate slots none

/-- The slot of a key. -/
def slot (m : Memory) (key : List Nat) : Nat := (mix key).toNat % m.size

/-- The state that the table remembers for a key. -/
def get? (m : Memory) (key : List Nat) : Option Nat :=
  match m[m.slot key]?.getD none with
  | some (k, state) => if k = key then some state else none
  | none => none

/-- The table with a state for a key. -/
def put (m : Memory) (key : List Nat) (state : Nat) : Memory :=
  m.setIfInBounds (m.slot key) (some (key, state))

end Memory

/-- An automaton and the states of it that are remembered. -/
structure Growing where
  footprint : Footprint
  memory : Memory

/-- The state with the given key: a remembered one or else a new one. -/
def Growing.state (g : Growing) (key : List Nat) (grow : Growth) : Nat × Growing :=
  match g.memory.get? key with
  | some s => (s, g)
  | none =>
    let s := g.footprint.states
    (s, ⟨grow g.footprint, g.memory.put key s⟩)

/-- Neighbouring products that begin with the same range, with what they go on with. -/
def groupHeads : List (List ByteRange) → List (ByteRange × List (List ByteRange))
  | [] => []
  | [] :: rest => groupHeads rest
  | (r :: tail) :: rest =>
    match groupHeads rest with
    | (q, tails) :: groups =>
      if q = r then (r, tail :: tails) :: groups else (r, [tail]) :: (q, tails) :: groups
    | [] => [(r, [tail])]

/-- The state that products of at most `depth` ranges begin at; they end at `target`. The states
that they go on with come first. -/
def beginning (target : Nat) : (depth : Nat) → List (List ByteRange) → Growing → Nat × Growing
  | 0, _, g => (target, g)
  | depth + 1, products, g =>
    match groupHeads products with
    | [] => (target, g)
    | groups =>
      let (ways, g) := groups.foldl
        (fun (ways, g) (r, tails) =>
          let (next, g) := beginning target depth tails g
          ((r, next) :: ways, g))
        (([], g) : List (ByteRange × Nat) × Growing)
      g.state (ways.reverse.flatMap fun (r, next) => [r.1, r.2, next]) (branch ways.length)

/-- The greatest number of bytes of a character. -/
def maxBytes : Nat := 4

/-- The slots for the states of a class in the forward automaton. -/
def forwardSlots : Nat := 10000

/-- The slots for the states of a class in the backward automaton. -/
def backwardSlots : Nat := 1000

/-- A class in the forward automaton. -/
def forwardClass (products : List (List ByteRange)) : Growth := fun f =>
  (beginning f.states maxBytes products ⟨step f, .empty forwardSlots⟩).2.footprint

/-- A class in the backward automaton: each product has a way out of the fork, its first byte is
read last, and what is read last is shared. -/
def backwardClass (products : List (List ByteRange)) : Growth := fun f =>
  let g : Growing := ⟨step (fork products.length f), .empty backwardSlots⟩
  let join := fun (g : Growing) (product : List ByteRange) =>
    (product.foldl (fun (next, g) r => Growing.state g [next, r.1, r.2] step) (f.states + 1, g)).2
  (products.foldl join g).footprint

/-- **A class of characters.** Within ASCII it is one state that branches on its ranges. -/
def ofClass (backward : Bool) (s : Unicode.CharSet) : Growth :=
  if s.isAscii then fun f => branch s.ranges.length (step f)
  else
    let products := s.ranges.flatMap fun (a, b) => byteRanges a b
    if backward then backwardClass products else forwardClass products

/-! ### Literals -/

/-- Words between those that are empty, which end a stretch. -/
def stretches : List (List UInt8) → List (List (List UInt8))
  | [] => [[]]
  | w :: ws =>
    match w, stretches ws with
    | [], rest => [] :: rest
    | w, stretch :: rest => (w :: stretch) :: rest
    | w, [] => [[w]]

/-- Words without the empty ones behind an empty first one. -/
def withOneEnd : List (List UInt8) → List (List UInt8)
  | [] :: rest => [] :: rest.dropWhile List.isEmpty
  | words => words

/-- The first bytes of words, each one once. -/
def heads (words : List (List UInt8)) : List UInt8 := (words.filterMap List.head?).eraseDups

/-- What words with the given first byte go on with. -/
def tails (head : UInt8) (words : List (List UInt8)) : List (List UInt8) :=
  words.filterMap fun w =>
    match w with
    | b :: rest => if b = head then some rest else none
    | [] => none

/-- Words of fewer than `depth` bytes, with their beginnings in common. Where a word ends and others
go on, what comes before it and what comes behind it are kept apart, for the sake of preference. -/
def words : (depth : Nat) → List (List UInt8) → Growth
  | 0, _, f => f
  | depth + 1, ws, f =>
    if ws.all List.isEmpty then f
    else
      let runs := stretches (withOneEnd ws)
      let chunk := fun (f : Footprint) (run : List (List UInt8)) =>
        let f := (heads run).foldl (fun f b => words depth (tails b run) f) f
        match (heads run).length with
        | 0 => f
        | 1 => step f
        | n => branch n f
      fork ((runs.filter fun r => !r.isEmpty).length + runs.length - 1) (runs.foldl chunk f)

/-- **Alternatives that are all literals.** They end at one state. -/
def literals (backward : Bool) (ls : List (List Char)) : Growth := fun f =>
  let ws := ls.map fun cs =>
    let bytes := cs.flatMap String.utf8EncodeChar
    if backward then bytes.reverse else bytes
  words (ws.foldl (fun n w => max n w.length) 0 + 1) ws (step f)

/-! ### Parts -/

/-- Copies one after another. -/
def copies (g : Growth) (n : Nat) : Growth := if n = 0 then step else again g n

/-- **A repetition** of a part, which may match the empty text or not. -/
def repeated (g : Growth) (takesText : Bool) (min : Nat) : Option Nat → Growth
  | none => fun f =>
    if 0 < min then fork 2 (again g min f)
    else if takesText then g (fork 2 f)
    else step (fork 2 (fork 2 (g f)))
  | some max => fun f =>
    if min = 0 ∧ max = 1 then step (g (fork 2 f))
    else if max ≤ min then copies g min f
    else again (fun f => g (fork 2 f)) (max - min) (step (copies g min f))

/-- **An alternative:** a literal or something else. -/
inductive Piece where
  | word (cs : List Char)
  | other (grow : Growth)

/-- What an alternative adds by itself. -/
def Piece.grow : Piece → Growth
  | word cs => steps (Text.byteLength cs)
  | other g => g

/-- The literal that an alternative is. -/
def Piece.word? : Piece → Option (List Char)
  | word cs => some cs
  | other _ => none

/-- **Alternatives together.** The fork and its end come after the first two of them. -/
def join (backward : Bool) : List Piece → Growth
  | [] => id
  | [p] => p.grow
  | p :: q :: rest =>
    match (p :: q :: rest).mapM Piece.word? with
    | some ls => literals backward ls
    | none => fun f =>
      rest.foldl (fun f r => r.grow f) (step (fork (rest.length + 2) (q.grow (p.grow f))))

end Footprint

namespace Node

open Footprint

/-- The alternatives of a tree, as what they add to an automaton. -/
def pieces (backward : Bool) : Node → List Piece
  | empty => [.other step]
  | literal cs => [.word cs]
  | set s _ => [.other (ofClass backward s)]
  | look _ => [.other step]
  | seq a b =>
    let g := join backward (a.pieces backward)
    let h := join backward (b.pieces backward)
    [.other fun f => if backward then g (h f) else h (g f)]
  | alt a b => a.pieces backward ++ b.pieces backward
  | group _ a =>
    let g := join backward (a.pieces backward)
    [.other fun f => if backward then g f else step (g (step f))]
  | «repeat» a min max _ =>
    let g := join backward (a.pieces backward)
    [.other (repeated g (a.minLength?.any (0 < ·)) min max)]

/-- **What the automaton of a pattern takes.** Unless the pattern is bound to the place where
reading starts, a loop before it finds that place. The forward automaton marks the whole match. -/
def footprint (backward : Bool) (n : Node) : Footprint :=
  let isBound := if backward then n.closesWith .textEnd else n.opensWith .textStart
  let start := if isBound then step zero else branch 1 (step (fork 2 zero))
  let body := join backward (n.pieces backward)
  step (if backward then body start else step (body (step start)))

/-- **Do both automata of a pattern stay within the limit?** -/
def fits (n : Node) : Bool := !(n.footprint false).isOver && !(n.footprint true).isOver

end Node
end InlineMarkup.Pattern
