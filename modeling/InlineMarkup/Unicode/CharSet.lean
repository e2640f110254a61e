/-!
# Sets of characters

A `CharSet` is kept as ascending ranges of code points with gaps between them. Every operation
keeps this form, so a set can be described in one way only, and its ranges can be counted.
-/

namespace InlineMarkup.Unicode

/-- **A set of characters,** as the ranges of its code points, ends included. -/
structure CharSet where
  ranges : List (Nat × Nat)
  deriving DecidableEq

/-- Is the number in one of the ranges? They ascend, so the search ends at the first one that
begins behind it. -/
def inRanges : List (Nat × Nat) → Nat → Bool
  | [], _ => false
  | (first, last) :: rest, n => if n < first then false else n ≤ last || inRanges rest n

namespace CharSet

/-- The greatest code point. -/
def lastCode : Nat := 0x10FFFF

/-- The code points that are halves of pairs and no characters. -/
def halves : Nat × Nat := (0xD800, 0xDFFF)

/-- **Membership.** -/
def contains (s : CharSet) (c : Char) : Bool := inRanges s.ranges c.toNat

/-! ### Ranges -/

/-- A range joined with those that begin behind its start, wherever they touch it. -/
def joinFrom (first last : Nat) : List (Nat × Nat) → List (Nat × Nat)
  | [] => [(first, last)]
  | (a, b) :: rest =>
    if a ≤ last + 1 then joinFrom first (max last b) rest else (first, last) :: joinFrom a b rest

/-- Ranges in the order of their starts, joined wherever they touch. -/
def joined : List (Nat × Nat) → List (Nat × Nat)
  | [] => []
  | (a, b) :: rest => joinFrom a b rest

/-- The gaps between ascending ranges, from `start` on. -/
def gapsFrom (start : Nat) : List (Nat × Nat) → List (Nat × Nat)
  | [] => if start ≤ lastCode then [(start, lastCode)] else []
  | (a, b) :: rest => (if start < a then [(start, a - 1)] else []) ++ gapsFrom (b + 1) rest

/-! ### Building sets -/

/-- No character. -/
def empty : CharSet := ⟨[]⟩

/-- The characters from the first to the last one. -/
def range (first last : Char) : CharSet :=
  if first.toNat < halves.1 ∧ halves.2 < last.toNat then
    ⟨[(first.toNat, halves.1 - 1), (halves.2 + 1, last.toNat)]⟩
  else ⟨[(first.toNat, last.toNat)]⟩

/-- One character. -/
def single (c : Char) : CharSet := range c c

/-- **The union.** -/
def union (s t : CharSet) : CharSet :=
  ⟨joined (s.ranges.merge t.ranges fun p q => p.1 ≤ q.1)⟩

/-- The union of several sets. -/
def unions (sets : List CharSet) : CharSet := sets.foldr union empty

/-- The characters of any ranges. -/
def ofRanges (ranges : List (Nat × Nat)) : CharSet :=
  ⟨joined (ranges.mergeSort fun p q => p.1 ≤ q.1)⟩

/-- The characters with the given numbers. -/
def ofCodes (codes : List Nat) : CharSet := ofRanges (codes.map fun n => (n, n))

/-- **The complement.** -/
def compl (s : CharSet) : CharSet := ⟨gapsFrom 0 (union s ⟨[halves]⟩).ranges⟩

/-- **The intersection.** -/
def inter (s t : CharSet) : CharSet := (s.compl.union t.compl).compl

/-- The difference. -/
def diff (s t : CharSet) : CharSet := (s.compl.union t).compl

/-- The symmetric difference. -/
def symmDiff (s t : CharSet) : CharSet := (s.diff t).union (t.diff s)

/-- The set with every code point moved by the same distance. -/
def shifted (distance : Int) (s : CharSet) : CharSet :=
  ⟨s.ranges.map fun (a, b) => ((a + distance).toNat, (b + distance).toNat)⟩

/-- All characters. -/
def all : CharSet := empty.compl

/-- The ASCII characters. -/
def ascii : CharSet := range '\x00' '\x7f'

/-! ### What a set holds -/

/-- Is there no character in the set? -/
def isEmpty (s : CharSet) : Bool := s.ranges.isEmpty

/-- The character of a set that holds no other. -/
def only? (s : CharSet) : Option Char :=
  match s.ranges with
  | [(a, b)] => if a = b then some (Char.ofNat a) else none
  | _ => none

/-- The characters with the least and the greatest code point. -/
def ends? (s : CharSet) : Option (Char × Char) :=
  match s.ranges.head?, s.ranges.getLast? with
  | some (a, _), some (_, b) => some (Char.ofNat a, Char.ofNat b)
  | _, _ => none

/-- Are all characters ASCII characters? -/
def isAscii (s : CharSet) : Bool := s.ends?.all fun e => e.2.toNat < 0x80

end CharSet
end InlineMarkup.Unicode
