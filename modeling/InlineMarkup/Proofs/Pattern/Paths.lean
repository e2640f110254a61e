import Mathlib.Order.Basic
import Mathlib.Order.Nat
import InlineMarkup.Pattern.Program
import InlineMarkup.Proofs.Pattern.Matching

/-!
# Ways through a program

A program accepts along a way through its instructions. The code of a block is laid out by
addresses, so nothing but arithmetic keeps a way inside of it: this module shows that every way that
enters a block at its first instruction leaves it where the block goes on, and that what it has read
until then is a match of the block's pattern.

* `Program.Accepts` — a way to an accepting instruction, with the number of its steps.
* `Block.Realizes` — what a block reads, for every way through it. The steps are counted since a
  loop takes a way back to its own beginning: what is left of the way is shorter then.
* `Node.realizes_block` — the block of a pattern reads what the pattern matches.
-/

namespace InlineMarkup

theorem Unicode.CharSet.contains_single {c d : Char} : (single c).contains d = true ↔ d = c := by
  have hrange : single c = ⟨[(c.toNat, c.toNat)]⟩ := by
    refine if_neg fun h => ?_
    simp only [halves] at h
    omega
  rw [hrange, contains, inRanges, ← Char.toNat_inj]
  simp only [inRanges, Bool.or_false]
  split
  · next hlt => exact iff_of_false Bool.false_ne_true (Nat.ne_of_lt hlt)
  · rw [decide_eq_true_iff]
    omega

namespace Pattern

variable {p : Program} {a b m z : Point} {i j k n base next : Nat}

namespace Program

/-! ### Steps -/

/-- **A step** from an instruction at a point to another one. -/
inductive Step (p : Program) : Nat → Point → Nat → Point → Prop where
  | consume {i j : Nat} {s : Unicode.CharSet} {c : Char} {a b : Point}
      (code : p.code[i]? = some (.consume s j)) (known : s.contains c = true)
      (taken : Point.Takes c a b) : Step p i a j b
  | test {i j : Nat} {l : Look} {a : Point} (code : p.code[i]? = some (.test l j))
      (holds : l.holds a.around = true) : Step p i a j a
  | jump {i j : Nat} {a : Point} (code : p.code[i]? = some (.jump j)) : Step p i a j a
  | first {i j j' : Nat} {a : Point} (code : p.code[i]? = some (.branch j j')) : Step p i a j a
  | second {i j j' : Nat} {a : Point} (code : p.code[i]? = some (.branch j j')) : Step p i a j' a

/-- **A way to an accepting instruction:** the number of steps, where it begins, and the points
between which it leads. -/
inductive Accepts (p : Program) : (steps : Nat) → (start : Nat) → Point → Point → Prop where
  | here {i : Nat} {a : Point} (code : p.code[i]? = some .accept) : Accepts p 0 i a a
  | step {k i j : Nat} {a m z : Point} (first : p.Step i a j m) (onward : Accepts p k j m z) :
      Accepts p (k + 1) i a z

namespace Accepts

variable (h : p.Accepts k i a z)
include h

theorem of_accept (code : p.code[i]? = some .accept) : a = z := by
  cases h with
  | here => rfl
  | step first =>
    cases first with
    | consume code' | test code' | jump code' | first code' | second code' =>
      cases code.symm.trans code'

theorem of_consume {s : Unicode.CharSet} (code : p.code[i]? = some (.consume s j)) :
    ∃ k' < k, ∃ c m, s.contains c = true ∧ Point.Takes c a m ∧ p.Accepts k' j m z := by
  cases h with
  | here code' => cases code.symm.trans code'
  | step first onward =>
    cases first with
    | consume code' known taken =>
      cases code.symm.trans code'
      exact ⟨_, Nat.lt_succ_self _, _, _, known, taken, onward⟩
    | test code' | jump code' | first code' | second code' => cases code.symm.trans code'

theorem of_test {l : Look} (code : p.code[i]? = some (.test l j)) :
    ∃ k' < k, l.holds a.around = true ∧ p.Accepts k' j a z := by
  cases h with
  | here code' => cases code.symm.trans code'
  | step first onward =>
    cases first with
    | test code' holds =>
      cases code.symm.trans code'
      exact ⟨_, Nat.lt_succ_self _, holds, onward⟩
    | consume code' | jump code' | first code' | second code' => cases code.symm.trans code'

theorem of_jump (code : p.code[i]? = some (.jump j)) : ∃ k' < k, p.Accepts k' j a z := by
  cases h with
  | here code' => cases code.symm.trans code'
  | step first onward =>
    cases first with
    | jump code' =>
      cases code.symm.trans code'
      exact ⟨_, Nat.lt_succ_self _, onward⟩
    | consume code' | test code' | first code' | second code' => cases code.symm.trans code'

theorem of_branch {j' : Nat} (code : p.code[i]? = some (.branch j j')) :
    ∃ k' < k, p.Accepts k' j a z ∨ p.Accepts k' j' a z := by
  cases h with
  | here code' => cases code.symm.trans code'
  | step first onward =>
    cases first with
    | first code' =>
      cases code.symm.trans code'
      exact ⟨_, Nat.lt_succ_self _, .inl onward⟩
    | second code' =>
      cases code.symm.trans code'
      exact ⟨_, Nat.lt_succ_self _, .inr onward⟩
    | consume code' | test code' | jump code' => cases code.symm.trans code'

theorem of_choose {eager : Bool} {more stop : Nat}
    (code : p.code[i]? = some (Block.choose eager more stop)) :
    ∃ k' < k, p.Accepts k' more a z ∨ p.Accepts k' stop a z := by
  cases eager with
  | true => exact h.of_branch code
  | false =>
    obtain ⟨k', hlt, hstop | hmore⟩ := h.of_branch code
    · exact ⟨k', hlt, .inr hstop⟩
    · exact ⟨k', hlt, .inl hmore⟩

end Accepts

/-! ### Code at an address -/

/-- **The program has the instructions** from an address on. -/
def HasAt (p : Program) (base : Nat) (is : List Instruction) : Prop :=
  ∀ i x, is[i]? = some x → p.code[base + i]? = some x

variable {x : Instruction} {xs ys : List Instruction}

theorem HasAt.left (h : p.HasAt base (xs ++ ys)) : p.HasAt base xs := fun i x hx =>
  h i x (by rw [List.getElem?_append_left (List.getElem?_eq_some_iff.mp hx).1, hx])

theorem HasAt.right (h : p.HasAt base (xs ++ ys)) : p.HasAt (base + xs.length) ys := by
  intro i x hx
  rw [Nat.add_assoc]
  refine h _ x ?_
  rw [List.getElem?_append_right (Nat.le_add_right _ _), Nat.add_sub_cancel_left, hx]

theorem HasAt.head (h : p.HasAt base (x :: xs)) : p.code[base]? = some x := h 0 x rfl

theorem HasAt.tail (h : p.HasAt base (x :: xs)) : p.HasAt (base + 1) xs := by
  change p.HasAt base ([x] ++ xs) at h
  exact h.right

end Program

/-! ### Turns of equal length -/

section Turns

variable {size : Nat} {turn : Nat → List Instruction} (hsize : ∀ i, (turn i).length = size)
include hsize

theorem length_flatMap_range : ((List.range n).flatMap turn).length = n * size := by
  induction n with
  | zero => exact (Nat.zero_mul size).symm
  | succ n ih =>
    rw [List.range_succ, List.flatMap_append, List.length_append, ih, List.flatMap_singleton, hsize,
      Nat.succ_mul]

theorem Program.HasAt.turn_at (h : p.HasAt base ((List.range n).flatMap turn)) (hi : i < n) :
    p.HasAt (base + i * size) (turn i) := by
  induction n with
  | zero => exact absurd hi (Nat.not_lt_zero i)
  | succ n ih =>
    rw [List.range_succ, List.flatMap_append, List.flatMap_singleton] at h
    rcases Nat.lt_or_eq_of_le (Nat.le_of_lt_succ hi) with hlt | rfl
    · exact ih h.left hlt
    · have hright := h.right
      rwa [length_flatMap_range hsize] at hright

end Turns

namespace Block

/-! ### Blocks -/

/-- **A block reads what a relation says:** its code has the length that it states, and every way
that begins at the block's first instruction goes on where the block does, with the relation between
the points. -/
structure Realizes (blk : Block) (R : Point → Point → Prop) : Prop where
  length_code : ∀ base next, (blk.code base next).length = blk.size
  onward : ∀ {p : Program} {base next k : Nat} {a z : Point}, p.HasAt base (blk.code base next) →
    p.Accepts k base a z → ∃ k' ≤ k, ∃ m, R a m ∧ p.Accepts k' next m z

variable {blk blk' : Block} {R S : Point → Point → Prop} {eager : Bool}

theorem Realizes.mono (h : blk.Realizes R) (himp : ∀ a b, R a b → S a b) : blk.Realizes S where
  length_code := h.length_code
  onward code way := by
    obtain ⟨k', hle, m, hm, onward⟩ := h.onward code way
    exact ⟨k', hle, m, himp _ _ hm, onward⟩

theorem realizes_skip : skip.Realizes Eq where
  length_code _ _ := rfl
  onward code way := by
    obtain ⟨k', hlt, onward⟩ := way.of_jump code.head
    exact ⟨k', hlt.le, _, rfl, onward⟩

theorem Realizes.seq (h : blk.Realizes R) (h' : blk'.Realizes S) :
    (blk.seq blk').Realizes fun a b => ∃ m, R a m ∧ S m b where
  length_code base next := by
    rw [Block.seq, List.length_append, h.length_code, h'.length_code]
  onward {p base next k a z} code way := by
    -- the way leaves the first block where the second one begins
    obtain ⟨k₁, hle₁, m₁, hm₁, way₁⟩ := h.onward code.left way
    have code' := code.right
    rw [h.length_code] at code'
    obtain ⟨k₂, hle₂, m₂, hm₂, way₂⟩ := h'.onward code' way₁
    exact ⟨k₂, hle₂.trans hle₁, m₂, ⟨m₁, hm₁, hm₂⟩, way₂⟩

theorem Realizes.alt (h : blk.Realizes R) (h' : blk'.Realizes S) :
    (blk.alt blk').Realizes fun a b => R a b ∨ S a b where
  length_code base next := by
    change (_ :: _ ++ _ : List Instruction).length = _
    rw [List.length_append, List.length_cons, h.length_code, h'.length_code]
    change _ = 1 + blk.size + blk'.size
    omega
  onward {p base next k a z} code way := by
    obtain ⟨k₁, hlt, way₁ | way₁⟩ := way.of_branch code.head
    · obtain ⟨k₂, hle, m, hm, way₂⟩ := h.onward code.tail.left way₁
      exact ⟨k₂, hle.trans hlt.le, m, .inl hm, way₂⟩
    · have code' := code.tail.right
      rw [h.length_code] at code'
      obtain ⟨k₂, hle, m, hm, way₂⟩ := h'.onward code' way₁
      exact ⟨k₂, hle.trans hlt.le, m, .inr hm, way₂⟩

theorem Realizes.optional (h : blk.Realizes R) :
    (blk.optional eager).Realizes fun a b => a = b ∨ R a b where
  length_code base next := by
    rw [Block.optional, List.length_cons, h.length_code, Nat.add_comm]
  onward {p base next k a z} code way := by
    obtain ⟨k₁, hlt, way₁ | way₁⟩ := way.of_choose code.head
    · obtain ⟨k₂, hle, m, hm, way₂⟩ := h.onward code.tail way₁
      exact ⟨k₂, hle.trans hlt.le, m, .inr hm, way₂⟩
    · exact ⟨k₁, hlt.le, a, .inl rfl, way₁⟩

/-- **A loop** reads its block any number of times, at least once. The induction is on the number of
steps: a way that goes back to the beginning has fewer of them left. -/
theorem Realizes.plus (h : blk.Realizes R) :
    (blk.plus eager).Realizes fun a b => ∃ t, 1 ≤ t ∧ Times R t a b where
  length_code base next := by
    rw [Block.plus, List.length_append, h.length_code, List.length_singleton]
  onward {p base next k a z} code way := by
    have back := code.right
    rw [h.length_code] at back
    induction k using Nat.strongRecOn generalizing a with
    | _ k ih =>
      obtain ⟨k₁, hle₁, m₁, hm₁, way₁⟩ := h.onward code.left way
      obtain ⟨k₂, hlt₂, way₂ | way₂⟩ := way₁.of_choose back.head
      · -- back to the beginning, or out of the loop
        have hlt : k₂ < k := hlt₂.trans_le hle₁
        obtain ⟨k₃, hle₃, m₃, ⟨t, ht, hm₃⟩, way₃⟩ := ih k₂ hlt way₂
        exact ⟨k₃, hle₃.trans hlt.le, m₃, ⟨t + 1, Nat.le_add_left 1 t, m₁, hm₁, hm₃⟩, way₃⟩
      · exact ⟨k₂, hlt₂.le.trans hle₁, m₁, ⟨1, Nat.le_refl 1, times_one.mpr hm₁⟩, way₂⟩

/-! ### Literals -/

theorem length_consumeAll (cs : List Char) : (consumeAll cs base next).length = cs.length := by
  induction cs generalizing base with
  | nil => rfl
  | cons c cs ih =>
    cases cs with
    | nil => rfl
    | cons d cs => exact congrArg (· + 1) ih

theorem onward_consumeAll {cs : List Char} (hne : cs ≠ [])
    (code : p.HasAt base (consumeAll cs base next)) (way : p.Accepts k base a z) :
    ∃ k' ≤ k, ∃ m, Point.Reads cs a m ∧ p.Accepts k' next m z := by
  induction cs generalizing base k a with
  | nil => exact absurd rfl hne
  | cons c cs ih =>
    cases cs with
    | nil =>
      obtain ⟨k₁, hlt, d, m, hd, taken, way₁⟩ := way.of_consume code.head
      obtain rfl := Unicode.CharSet.contains_single.mp hd
      exact ⟨k₁, hlt.le, m, ⟨m, taken, rfl⟩, way₁⟩
    | cons c' cs =>
      -- one character, and from there the way through the others
      obtain ⟨k₁, hlt, d, m, hd, taken, way₁⟩ := way.of_consume code.head
      obtain rfl := Unicode.CharSet.contains_single.mp hd
      obtain ⟨k₂, hle, m', hm', way₂⟩ := ih (List.cons_ne_nil _ _) code.tail way₁
      exact ⟨k₂, hle.trans hlt.le, m', ⟨m, taken, hm'⟩, way₂⟩

theorem realizes_word (cs : List Char) : (word cs).Realizes (Point.Reads cs) := by
  cases cs with
  | nil => exact realizes_skip
  | cons c cs =>
    exact ⟨fun _ _ => length_consumeAll _, onward_consumeAll (List.cons_ne_nil _ _)⟩

/-! ### Repetitions -/

/-- **Copies** read their block as often as there are copies. -/
theorem Realizes.copies (h : blk.Realizes R) (n : Nat) : (copies n blk).Realizes (Times R n) := by
  cases n with
  | zero => exact realizes_skip
  | succ n =>
    -- all copies have the same size, so each begins at a multiple of it
    have hsize : ∀ base next i, (blk.code (base + i * blk.size)
        (if i + 1 = n + 1 then next else base + (i + 1) * blk.size)).length = blk.size :=
      fun _ _ _ => h.length_code _ _
    refine ⟨fun base next => length_flatMap_range (hsize base next), ?_⟩
    intro p base next k a z code way
    have turn := fun i (hi : i < n + 1) => Program.HasAt.turn_at (hsize base next) code hi
    -- from a copy on, the number of copies that are left
    have onward : ∀ d i k a, i + d = n → p.Accepts k (base + i * blk.size) a z →
        ∃ k' ≤ k, ∃ m, Times R (d + 1) a m ∧ p.Accepts k' next m z := by
      intro d
      induction d with
      | zero =>
        -- the last copy, which leads out
        intro i k a hi way
        have code := turn i (by omega)
        rw [if_pos (by omega)] at code
        obtain ⟨k', hle, m, hm, way'⟩ := h.onward code way
        exact ⟨k', hle, m, times_one.mpr hm, way'⟩
      | succ d ih =>
        -- a copy that leads to the next one
        intro i k a hi way
        have code := turn i (by omega)
        rw [if_neg (by omega)] at code
        obtain ⟨k₁, hle₁, m₁, hm₁, way₁⟩ := h.onward code way
        obtain ⟨k₂, hle₂, m₂, hm₂, way₂⟩ := ih (i + 1) k₁ m₁ (by omega) way₁
        exact ⟨k₂, hle₂.trans hle₁, m₂, ⟨m₁, hm₁, hm₂⟩, way₂⟩
    refine onward n 0 k a (Nat.zero_add n) ?_
    rwa [Nat.zero_mul]

/-- **Turns that may stop** read their block at most as often as there are turns. -/
theorem Realizes.atMost (h : blk.Realizes R) (n : Nat) :
    (blk.atMost eager n).Realizes fun a b => ∃ t ≤ n, Times R t a b := by
  -- each turn is one choice and the block
  have hsize : ∀ base next i, (choose eager (base + i * (blk.size + 1) + 1) next ::
      blk.code (base + i * (blk.size + 1) + 1)
        (base + i * (blk.size + 1) + 1 + blk.size)).length = blk.size + 1 := fun _ _ _ => by
    rw [List.length_cons, h.length_code]
  refine ⟨fun base next => ?_, ?_⟩
  · rw [Block.atMost, List.length_append, length_flatMap_range (hsize base next)]
    rfl
  · intro p base next k a z code way
    have turn := fun i (hi : i < n) => Program.HasAt.turn_at (hsize base next) code.left hi
    have exit := code.right.head
    rw [length_flatMap_range (hsize base next)] at exit
    -- from a turn on, the number of turns that are left
    have onward : ∀ d i k a, i + d = n → p.Accepts k (base + i * (blk.size + 1)) a z →
        ∃ k' ≤ k, ∃ m, (∃ t ≤ d, Times R t a m) ∧ p.Accepts k' next m z := by
      intro d
      induction d with
      | zero =>
        -- behind all turns the way leads out
        intro i k a hi way
        obtain rfl : i = n := hi
        obtain ⟨k', hlt, way'⟩ := way.of_jump exit
        exact ⟨k', hlt.le, a, ⟨0, Nat.le_refl 0, rfl⟩, way'⟩
      | succ d ih =>
        intro i k a hi way
        have code := turn i (by omega)
        obtain ⟨k₁, hlt₁, way₁ | way₁⟩ := way.of_choose code.head
        · -- the turn is taken, and the next one begins behind its block
          obtain ⟨k₂, hle₂, m₂, hm₂, way₂⟩ := h.onward code.tail way₁
          have hnext : base + i * (blk.size + 1) + 1 + blk.size =
              base + (i + 1) * (blk.size + 1) := by
            rw [Nat.succ_mul]
            omega
          rw [hnext] at way₂
          obtain ⟨k₃, hle₃, m₃, ⟨t, ht, hm₃⟩, way₃⟩ := ih (i + 1) k₂ m₂ (by omega) way₂
          exact ⟨k₃, (hle₃.trans hle₂).trans hlt₁.le, m₃,
            ⟨t + 1, Nat.succ_le_succ ht, m₂, hm₂, hm₃⟩, way₃⟩
        · -- the turn is not taken
          exact ⟨k₁, hlt₁.le, a, ⟨0, Nat.zero_le _, rfl⟩, way₁⟩
    refine onward n 0 k a (Nat.zero_add n) ?_
    rwa [Nat.zero_mul]

/-- **A repetition** reads its block a number of times within the bounds. -/
theorem Realizes.times (h : blk.Realizes R) (min : Nat) (max : Option Nat) :
    (blk.times eager min max).Realizes fun a b =>
      ∃ t, min ≤ t ∧ (∀ m ∈ max, t ≤ Nat.max min m) ∧ Times R t a b := by
  cases max with
  | none =>
    match min with
    | 0 =>
      -- a loop, which may be left out
      refine h.plus.optional.mono fun a b hab => ?_
      obtain rfl | ⟨t, -, ht⟩ := hab
      · exact ⟨0, Nat.le_refl 0, by rintro _ ⟨⟩, rfl⟩
      · exact ⟨t, Nat.zero_le t, by rintro _ ⟨⟩, ht⟩
    | 1 =>
      refine h.plus.mono fun a b hab => ?_
      obtain ⟨t, ht, hab⟩ := hab
      exact ⟨t, ht, by rintro _ ⟨⟩, hab⟩
    | min + 2 =>
      -- copies in front of the loop, which is the last of them
      refine ((h.copies (min + 1)).seq h.plus).mono fun a b hab => ?_
      obtain ⟨m, ham, t, ht, hmb⟩ := hab
      exact ⟨min + 1 + t, by omega, by rintro _ ⟨⟩, ham.add hmb⟩
  | some max =>
    by_cases hle : max ≤ min
    · -- no more than the least number: copies alone
      rw [Block.times, if_pos hle]
      refine (h.copies min).mono fun a b hab => ⟨min, Nat.le_refl min, ?_, hab⟩
      rintro _ ⟨⟩
      exact Nat.le_max_left min max
    · -- copies for the least number, turns that may stop for the others
      rw [Block.times, if_neg hle]
      refine ((h.copies min).seq (h.atMost (max - min))).mono fun a b hab => ?_
      obtain ⟨m, ham, t, ht, hmb⟩ := hab
      refine ⟨min + t, Nat.le_add_right min t, ?_, ham.add hmb⟩
      rintro _ ⟨⟩
      exact le_trans (by omega) (Nat.le_max_right min max)

end Block

/-! ### Patterns -/

/-- **The block of a pattern** reads what the pattern matches. -/
theorem Node.realizes_block (n : Node) : n.block.Realizes n.Spans := by
  induction n with
  | empty => exact Block.realizes_skip
  | literal cs => exact Block.realizes_word cs
  | set s =>
    refine ⟨fun _ _ => rfl, fun code way => ?_⟩
    obtain ⟨k', hlt, c, m, known, taken, onward⟩ := way.of_consume code.head
    exact ⟨k', hlt.le, m, ⟨c, known, taken⟩, onward⟩
  | look l =>
    refine ⟨fun _ _ => rfl, fun code way => ?_⟩
    obtain ⟨k', hlt, holds, onward⟩ := way.of_test code.head
    exact ⟨k', hlt.le, _, ⟨holds, rfl⟩, onward⟩
  | seq _ _ iha ihb => exact iha.seq ihb
  | alt _ _ iha ihb => exact iha.alt ihb
  | group _ _ ih => exact ih
  | «repeat» _ min max _ ih => exact ih.times min max

/-- **The program of a pattern** accepts between points that the pattern lies between. -/
theorem Program.spans_of_accepts {n : Node} (h : (Program.ofNode n).Accepts k 0 a z) :
    n.Spans a z := by
  have code : (Program.ofNode n).HasAt 0 (n.block.code 0 n.block.size ++ [Instruction.accept]) :=
    fun i x hx => by
      rw [Nat.zero_add, Program.ofNode, List.getElem?_toArray, hx]
  obtain ⟨k', -, m, hspans, onward⟩ := n.realizes_block.onward code.left h
  have stop := code.right.head
  rw [n.realizes_block.length_code, Nat.zero_add] at stop
  obtain rfl := onward.of_accept stop
  exact hspans

end Pattern
end InlineMarkup
