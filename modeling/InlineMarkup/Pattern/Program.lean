import InlineMarkup.Pattern.Node

/-!
# Finding matches

A pattern is turned into a `Program`: a list of instructions, each of which consumes a character,
tests a place, or branches with a preference. A search follows all ways through the program at
once, one character at a time, as a list of places in order of preference. No place is listed twice
for the same character, so a search takes time proportional to the text and to the program.

A program is built from `Block`s. A block knows its size, and its code follows from the address
where it stands and the address where it goes on, so blocks are put together by addition.
-/

namespace InlineMarkup.Pattern

open Unicode (CharSet)

/-- **An instruction.** Addresses are indices into the program. -/
inductive Instruction where
  | consume (s : CharSet) (next : Nat)
  | test (l : Look) (next : Nat)
  | jump (next : Nat)
  /-- Goes on at `first`, and at `second` with lower preference. -/
  | branch (first second : Nat)
  | accept

/-- **A piece of a program:** the number of its instructions, and these as they are when the piece
stands at `base` and goes on at `next`. It begins with its first instruction. -/
structure Block where
  size : Nat
  code : (base next : Nat) → List Instruction

namespace Block

/-- Nothing, and on. -/
def skip : Block := ⟨1, fun _ next => [.jump next]⟩

/-- One block after another. -/
def seq (a b : Block) : Block :=
  ⟨a.size + b.size, fun base next =>
    a.code base (base + a.size) ++ b.code (base + a.size) next⟩

/-- One block or, with lower preference, another. -/
def alt (a b : Block) : Block :=
  ⟨1 + a.size + b.size, fun base next =>
    .branch (base + 1) (base + 1 + a.size) :: a.code (base + 1) next
      ++ b.code (base + 1 + a.size) next⟩

/-- A branch to `more` or to `stop`, preferring the first if eager. -/
def choose (eager : Bool) (more stop : Nat) : Instruction :=
  if eager then .branch more stop else .branch stop more

/-- The block or nothing. -/
def optional (eager : Bool) (a : Block) : Block :=
  ⟨1 + a.size, fun base next => choose eager (base + 1) next :: a.code (base + 1) next⟩

/-- The block at least once. -/
def plus (eager : Bool) (a : Block) : Block :=
  ⟨a.size + 1, fun base next =>
    a.code base (base + a.size) ++ [choose eager base next]⟩

/-- Instructions that consume characters one after another. -/
def consumeAll : List Char → (base next : Nat) → List Instruction
  | [], _, _ => []
  | [c], _, next => [.consume (.single c) next]
  | c :: cs, base, next => .consume (.single c) (base + 1) :: consumeAll cs (base + 1) next

/-- The block of a literal. -/
def word (cs : List Char) : Block := if cs.isEmpty then skip else ⟨cs.length, consumeAll cs⟩

/-- The block a fixed number of times. -/
def copies (n : Nat) (a : Block) : Block :=
  if n = 0 then skip
  else
    ⟨n * a.size, fun base next =>
      (List.range n).flatMap fun i =>
        a.code (base + i * a.size) (if i + 1 = n then next else base + (i + 1) * a.size)⟩

/-- The block at most a number of times, each time only after the one before. -/
def atMost (eager : Bool) (n : Nat) (a : Block) : Block :=
  ⟨n * (a.size + 1) + 1, fun base next =>
    let turn := fun i =>
      let here := base + i * (a.size + 1)
      choose eager (here + 1) next :: a.code (here + 1) (here + 1 + a.size)
    (List.range n).flatMap turn ++ [.jump next]⟩

/-- **The block a number of times.** Any number of times is nothing or at least once, so that a
repetition of something that matches the empty text keeps its preferences. -/
def times (eager : Bool) (a : Block) (min : Nat) : Option Nat → Block
  | none =>
    match min with
    | 0 => optional eager (plus eager a)
    | 1 => plus eager a
    | n + 2 => (copies (n + 1) a).seq (plus eager a)
  | some max =>
    if max ≤ min then copies min a else (copies min a).seq (atMost eager (max - min) a)

end Block

/-- **The block of a pattern.** -/
def Node.block : Node → Block
  | empty => .skip
  | literal cs => .word cs
  | set s _ => ⟨1, fun _ next => [.consume s next]⟩
  | look l => ⟨1, fun _ next => [.test l next]⟩
  | seq a b => a.block.seq b.block
  | alt a b => a.block.alt b.block
  | group _ a => a.block
  | «repeat» a min max eager => a.block.times eager min max

/-- **A program,** and whether all its matches begin at the start of the text. -/
structure Program where
  code : Array Instruction
  anchored : Bool

/-- The program of a pattern. -/
def Program.ofNode (n : Node) : Program :=
  let b := n.block
  ⟨(b.code 0 b.size ++ [Instruction.accept]).toArray, n.isAnchored⟩

namespace Program

/-- **The places reached without consuming anything,** in order of preference: those with an
instruction that consumes or accepts. `todo` holds the addresses still to be visited, the preferred
one first, and `seen` says which addresses have been visited. Every visit adds at most two
addresses and none is visited twice, so `fuel` need not be more than twice the size of the program
and the number of addresses to begin with. -/
def reach (p : Program) (around : Around) :
    (fuel : Nat) → (todo : List Nat) → (seen : Array Bool) → (found : List Nat) → List Nat
  | 0, _, _, found => found.reverse
  | _, [], _, found => found.reverse
  | fuel + 1, a :: todo, seen, found =>
    if seen[a]?.getD true then reach p around fuel todo seen found
    else
      let seen := seen.setIfInBounds a true
      match p.code[a]? with
      | none => reach p around fuel todo seen found
      | some (.jump next) => reach p around fuel (next :: todo) seen found
      | some (.branch first second) => reach p around fuel (first :: second :: todo) seen found
      | some (.test l next) =>
        if l.holds around then reach p around fuel (next :: todo) seen found
        else reach p around fuel todo seen found
      | some (.consume ..) => reach p around fuel todo seen (a :: found)
      | some .accept => reach p around fuel todo seen (a :: found)

/-- All places reached from the given ones. -/
def closure (p : Program) (around : Around) (starts : List Nat) : List Nat :=
  reach p around (2 * p.code.size + starts.length) starts (Array.replicate p.code.size false) []

/-- Does the program accept at the address? -/
def accepts (p : Program) (a : Nat) : Bool :=
  match p.code[a]? with
  | some .accept => true
  | _ => false

/-- Where the instruction at an address goes on after a character. -/
def after? (p : Program) (c : Char) (a : Nat) : Option Nat :=
  match p.code[a]? with
  | some (.consume s next) => if s.contains c then some next else none
  | _ => none

/-- **The end of the preferred match** that goes on from the given addresses, at `offset` bytes and
after the character `before`. `best` is the end of the match to fall back to. -/
def run (p : Program) :
    List Char → (before : Option Char) → (offset : Nat) → (starts : List Nat) →
      (best : Option Nat) → Option Nat
  | [], before, offset, starts, best =>
    if (closure p ⟨before, none⟩ starts).any p.accepts then some offset else best
  | c :: cs, before, offset, starts, best =>
    let places := closure p ⟨before, some c⟩ starts
    -- what is less preferred than an accepting place is given up
    let live := places.takeWhile fun a => !p.accepts a
    let best := if live.length < places.length then some offset else best
    match live.filterMap (p.after? c) with
    | [] => best
    | starts => run p cs (some c) (offset + c.utf8Size) starts best

/-- The end of the first match that begins at or after a place of the text. -/
def searchFrom (p : Program) : List Char → (before : Option Char) → (offset : Nat) → Option Nat
  | [], before, offset => p.run [] before offset [0] none
  | c :: cs, before, offset =>
    match p.run (c :: cs) before offset [0] none with
    | some n => some n
    | none => if p.anchored then none else searchFrom p cs (some c) (offset + c.utf8Size)

/-- **The end of the first match** in a text, in bytes from its start. -/
def search (p : Program) (text : List Char) : Option Nat := p.searchFrom text none 0

end Program
end InlineMarkup.Pattern
