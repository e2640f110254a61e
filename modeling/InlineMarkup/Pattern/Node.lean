import InlineMarkup.Pattern.Look
import InlineMarkup.Text.Bytes

/-!
# Patterns as trees

`Node` is what a pattern says, all flags already applied: characters, conditions on a place in the
text, one thing after another, one thing or else another, and repetition. The order of alternatives
and the eagerness of repetitions state which match is preferred.

Trees are built in a plain form by `Node.seqs`, `Node.alts` and `Node.times`. In it sequences and
alternatives lean to the right, literals beside each other are one, alternatives that are single
characters or classes are one class, and what all alternatives begin with stands before them.
-/

namespace InlineMarkup.Pattern

open Unicode (CharSet)

/-- **A pattern.** -/
inductive Node where
  | empty
  | literal (cs : List Char)
  /-- A character of a class; `ascii` says that the class knows ASCII alone. -/
  | set (s : CharSet) (ascii : Bool)
  | look (l : Look)
  | seq (a b : Node)
  /-- The first alternative is preferred. -/
  | alt (a b : Node)
  /-- A group that is counted, with its number. -/
  | group (index : Nat) (a : Node)
  /-- A number of times from `min` to `max`, without bound if that is absent. An eager repetition
  prefers to go on, the other kind prefers to stop. -/
  | repeat (a : Node) (min : Nat) (max : Option Nat) (eager : Bool)
  deriving DecidableEq

namespace Node

/-! ### Questions -/

/-- The number of constructors of a tree. -/
def weight : Node → Nat
  | empty => 1
  | literal _ => 1
  | set _ _ => 1
  | look _ => 1
  | seq a b => a.weight + b.weight + 1
  | alt a b => a.weight + b.weight + 1
  | group _ a => a.weight + 1
  | «repeat» a _ _ _ => a.weight + 1

/-- **Are all matches empty,** and is that because nothing asks for a character? -/
def isBlank : Node → Bool
  | empty => true
  | literal cs => cs.isEmpty
  | set _ _ => false
  | look _ => true
  | seq a b => a.isBlank && b.isBlank
  | alt a b => a.isBlank && b.isBlank
  | group _ a => a.isBlank
  | «repeat» a _ max _ => max.isSome && a.isBlank

/-- **The least number of bytes of a match;** absent if a part cannot match. -/
def minLength? : Node → Option Nat
  | empty => some 0
  | literal cs => some (Text.byteLength cs)
  | set s _ => s.ends?.map fun e => e.1.utf8Size
  | look _ => some 0
  | seq a b => do return (← a.minLength?) + (← b.minLength?)
  | alt a b => do return Nat.min (← a.minLength?) (← b.minLength?)
  | group _ a => a.minLength?
  | «repeat» a min _ _ => a.minLength?.map (· * min)

/-- **Does every match pass the start of the text?** Then it begins there. -/
def isAnchored : Node → Bool
  | empty => false
  | literal _ => false
  | set _ _ => false
  | look l => l == .textStart
  | seq a b => a.isAnchored || b.isAnchored
  | alt a b => a.isAnchored && b.isAnchored
  | group _ a => a.isAnchored
  | «repeat» a min _ _ => decide (0 < min) && a.isAnchored

/-- Does a tree name the condition at its beginning, before anything that takes characters? -/
def opensWith (l : Look) : Node → Bool
  | empty => false
  | literal _ => false
  | set _ _ => false
  | look k => k == l
  | seq a b => a.opensWith l || (a.isBlank && b.opensWith l)
  | alt a b => a.opensWith l && b.opensWith l
  | group _ a => a.opensWith l
  | «repeat» a min _ _ => decide (0 < min) && a.opensWith l

/-- Does a tree name the condition at its end, behind everything that takes characters? -/
def closesWith (l : Look) : Node → Bool
  | empty => false
  | literal _ => false
  | set _ _ => false
  | look k => k == l
  | seq a b => b.closesWith l || (b.isBlank && a.closesWith l)
  | alt a b => a.closesWith l && b.closesWith l
  | group _ a => a.closesWith l
  | «repeat» a min _ _ => decide (0 < min) && a.closesWith l

/-! ### Classes -/

/-- What never matches. -/
def nothing : Node := .set .empty true

/-- **A character of a class.** A class of one character is that literal. -/
def ofSet (s : CharSet) (ascii : Bool) : Node :=
  match s.only? with
  | some c => .literal [c]
  | none => if s.isEmpty then nothing else .set s ascii

/-! ### Sequences -/

/-- The parts of a sequence. -/
def parts : Node → List Node
  | empty => []
  | seq a b => a :: b.parts
  | n => [n]

/-- Parts with those literals joined that stand beside each other. -/
def joinLiterals : List Node → List Node
  | [] => []
  | a :: as =>
    match a, joinLiterals as with
    | literal cs, literal ds :: rest => literal (cs ++ ds) :: rest
    | a, rest => a :: rest

/-- Parts one after another, as they are. -/
def chain : List Node → Node
  | [] => empty
  | [a] => a
  | a :: as => seq a (chain as)

/-- **One thing after another.** -/
def seqs (ns : List Node) : Node := chain (joinLiterals (ns.flatMap parts))

/-! ### Alternatives -/

/-- The alternatives of a tree. -/
def branches : Node → List Node
  | alt a b => a :: b.branches
  | n => [n]

/-- Alternatives as they are. -/
def choice : List Node → Node
  | [] => nothing
  | [a] => a
  | a :: as => alt a (choice as)

/-- The character of a literal that has no other. -/
def char? : Node → Option Char
  | literal [c] => some c
  | _ => none

/-- The class of a tree that is no more than that. -/
def set? : Node → Option CharSet
  | set s _ => some s
  | _ => none

/-- The class that alternatives are together, if they are single characters or classes. -/
def merged? (ns : List Node) : Option Node :=
  match ns.mapM char? with
  | some cs => some (ofSet (.ofCodes (cs.map Char.toNat)) false)
  | none => (ns.mapM set?).map fun sets => ofSet (.unions sets) false

/-- The beginning that two lists have in common. -/
def commonPrefix : List Node → List Node → List Node
  | a :: as, b :: bs => if a = b then a :: commonPrefix as bs else []
  | _, _ => []

/-- The parts that all sequences begin with. -/
def shared : List (List Node) → List Node
  | [] => []
  | ps :: rest => rest.foldl commonPrefix ps

/-- Is the tree a sequence of several parts? -/
def isSeq : Node → Bool
  | seq _ _ => true
  | _ => false

/-- Alternatives, with what they begin with in common before them. Every round takes something away
from each of them, so `fuel` need not be more than their weight. -/
def altsWithin : (fuel : Nat) → List Node → Node
  | 0, ns => choice ns
  | fuel + 1, ns =>
    let ns := ns.flatMap branches
    if ns.length ≤ 1 then choice ns
    else
      match merged? ns with
      | some n => n
      | none =>
        let common := if ns.all isSeq then shared (ns.map parts) else []
        if common.isEmpty then choice ns
        else
          let rests := ns.map fun n => seqs (n.parts.drop common.length)
          seqs (common ++ [altsWithin fuel rests])

/-- **One thing or else another.** -/
def alts (ns : List Node) : Node := altsWithin (ns.foldl (fun n a => n + a.weight) 1) ns

/-! ### Repetitions -/

/-- **A repetition.** What matches the empty text only is not repeated more than once. -/
def times (a : Node) (min : Nat) (max : Option Nat) (eager : Bool) : Node :=
  let (min, max) := if a.isBlank then (Nat.min min 1, some (Nat.min (max.getD 1) 1)) else (min, max)
  if min = 0 ∧ max = some 0 then empty
  else if min = 1 ∧ max = some 1 then a
  else .repeat a min max eager

end Node
end InlineMarkup.Pattern
