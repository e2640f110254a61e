import Mathlib.Data.List.TakeWhile
import Mathlib.Logic.Basic
import Mathlib.Logic.Relation
import InlineMarkup.Proofs.Pattern.Paths

/-!
# Found matches are matches

A search follows all ways through a program at once, so that what it returns is not the end of any
one way that it has written down. Each address on its list stands for a way that leads there: what
is reached without consuming is reached by steps that stay at their point (`Program.Silently`), and
what is consumed is one more step. Read backwards from the accepting address, these steps are a way
from the first instruction, and so by `Program.spans_of_accepts` a match of the pattern.

* `Program.exists_of_run` — a run that returns an end has found a way to there.
* `Program.exists_of_search` — what a search finds is the end of a match somewhere in the text.
* `Program.matchesTo_of_search` — a pattern that asks for the start of the text first is found
  nowhere else.
-/

namespace InlineMarkup.Pattern

variable {p : Program} {a b z : Point} {c : Char} {cs text : List Char} {before : Option Char}
  {i j k n offset : Nat} {starts : List Nat}

namespace Program

/-! ### Ways that stay at their point -/

/-- **Steps that consume nothing,** at one point. -/
def Silently (p : Program) (a : Point) : Nat → Nat → Prop :=
  Relation.ReflTransGen fun i j => p.Step i a j a

theorem Accepts.of_silently (h : p.Silently a i j) (way : p.Accepts k j a z) :
    ∃ k', p.Accepts k' i a z := by
  induction h generalizing k with
  | refl => exact ⟨k, way⟩
  | tail _ step ih => exact ih (.step step way)

/-- **An address follows** silently from one of the given ones. -/
def Follows (p : Program) (a : Point) (starts : List Nat) (i : Nat) : Prop :=
  ∃ s ∈ starts, p.Silently a s i

/-- **An address comes before those that it leads to** silently. -/
theorem Follows.of_steps (nexts : List Nat) (steps : ∀ k ∈ nexts, p.Step j a k a)
    (h : p.Follows a (nexts ++ starts) i) : p.Follows a (j :: starts) i := by
  obtain ⟨s, hs, way⟩ := h
  rcases List.mem_append.mp hs with hs | hs
  · exact ⟨j, List.mem_cons_self, .head (steps s hs) way⟩
  · exact ⟨s, List.mem_cons_of_mem j hs, way⟩

/-- **What is reached** has been found before or follows from what was to be visited. -/
theorem follows_of_mem_reach {fuel : Nat} {todo found : List Nat} {seen : Array Bool}
    (h : i ∈ p.reach a.around fuel todo seen found) : i ∈ found ∨ p.Follows a todo i := by
  -- an address is taken from those to be visited, and noted if the threads stop there
  have passed : ∀ {t todo}, p.Follows a todo i → p.Follows a (t :: todo) i :=
    .of_steps [] (by rintro _ ⟨⟩)
  have listed : ∀ {t todo found}, (i ∈ t :: found ∨ p.Follows a todo i) →
      i ∈ found ∨ p.Follows a (t :: todo) i := by
    rintro t todo found (hi | htodo)
    · rcases List.mem_cons.mp hi with rfl | hi
      · exact .inr ⟨i, List.mem_cons_self, .refl⟩
      · exact .inl hi
    · exact .inr (passed htodo)
  fun_induction reach p a.around fuel todo seen found with
  | case1 | case2 => exact .inl (List.mem_reverse.mp h)
  | case3 | case4 | case8 =>
    -- seen before, outside of the code, or a condition that does not hold
    rename_i ih
    exact (ih h).imp_right passed
  | case5 _ _ _ _ _ _ _ next code ih =>
    -- the three instructions that lead on silently
    exact (ih h).imp_right (.of_steps [next] (by simpa using .jump code))
  | case6 _ _ _ _ _ _ _ first second code ih =>
    exact (ih h).imp_right (.of_steps [first, second]
      (by simpa using ⟨.first code, .second code⟩))
  | case7 _ _ _ _ _ _ _ l next code holds ih =>
    exact (ih h).imp_right (.of_steps [next] (by simpa using .test code holds))
  | case9 | case10 =>
    -- the address is noted
    rename_i ih
    exact listed (ih h)

theorem follows_of_mem_closure (h : i ∈ p.closure a.around starts) : p.Follows a starts i := by
  obtain hi | h := follows_of_mem_reach h
  · cases hi
  · exact h

/-! ### Runs -/

theorem code_of_accepts (h : p.accepts i = true) : p.code[i]? = some .accept := by
  unfold accepts at h
  split at h
  · assumption
  · cases h

theorem step_of_after? (h : p.after? c i = some j) (taken : Point.Takes c a b) :
    p.Step i a j b := by
  unfold after? at h
  split at h
  · next s next code =>
    split at h
    · next known =>
      cases h
      exact .consume code known taken
    · cases h
  · cases h

/-- **An accepting address on the list** ends a way from one of the starts. -/
theorem exists_of_accepts_closure (hi : i ∈ p.closure a.around starts)
    (haccepts : p.accepts i = true) : ∃ s ∈ starts, ∃ k, p.Accepts k s a a := by
  obtain ⟨s, hs, silent⟩ := follows_of_mem_closure hi
  exact ⟨s, hs, Accepts.of_silently silent (.here (code_of_accepts haccepts))⟩

/-- **A run that returns an end** has found a way to there, or falls back to the end that it was
given. The induction is on the text; a start of the run that goes on is one step behind a place on
the list, and that follows from a start of this run. -/
theorem exists_of_run {best : Option Nat} (h : p.run cs before offset starts best = some n) :
    best = some n ∨ ∃ s ∈ starts, ∃ piece z k, Point.Reads piece ⟨before, cs⟩ z ∧
      n = offset + Text.byteLength piece ∧ p.Accepts k s ⟨before, cs⟩ z := by
  induction cs generalizing before offset starts best with
  | nil =>
    let here : Point := ⟨before, []⟩
    change (if (p.closure here.around starts).any p.accepts then some offset else best) = _ at h
    split at h
    · -- the text has ended, so a way that accepts here ends with it
      next hany =>
      cases h
      obtain ⟨i, hi, haccepts⟩ := List.any_eq_true.mp hany
      obtain ⟨s, hs, k, way⟩ := exists_of_accepts_closure hi haccepts
      exact .inr ⟨s, hs, [], _, k, rfl, rfl, way⟩
    · exact .inl h
  | cons c cs ih =>
    let here : Point := ⟨before, c :: cs⟩
    let places := p.closure here.around starts
    let live := places.takeWhile fun i => !p.accepts i
    let best' := if live.length < places.length then some offset else best
    -- the end to fall back to is the given one or that of a way that ends here
    have fallBack : best' = some n → best = some n ∨ ∃ s ∈ starts, ∃ piece z k,
        Point.Reads piece here z ∧ n = offset + Text.byteLength piece ∧ p.Accepts k s here z := by
      intro hbest
      by_cases hlt : live.length < places.length
      · obtain rfl : offset = n := Option.some.inj ((if_pos hlt).symm.trans hbest)
        -- the list is cut at an address that accepts
        obtain ⟨i, hi, haccepts⟩ : ∃ i ∈ places, p.accepts i = true := by
          by_contra hnone
          have hall : live = places := List.takeWhile_eq_self_iff.mpr fun i hi => by
            simpa using fun haccepts => hnone ⟨i, hi, haccepts⟩
          exact absurd (congrArg List.length hall) (Nat.ne_of_lt hlt)
        obtain ⟨s, hs, k, way⟩ := exists_of_accepts_closure hi haccepts
        exact .inr ⟨s, hs, [], here, k, rfl, rfl, way⟩
      · exact .inl ((if_neg hlt).symm.trans hbest)
    rw [run] at h
    split at h
    · -- no thread is left to go on
      exact fallBack h
    · obtain hbest | ⟨s', hs', piece, z, k, hpiece, hn, way⟩ := ih h
      · exact fallBack hbest
      · -- the way goes on: in front of it one step over the character, and silent ones before
        obtain ⟨i, hi, hafter⟩ := List.mem_filterMap.mp hs'
        have hplace : i ∈ places := (List.takeWhile_prefix _).subset hi
        obtain ⟨s, hs, silent⟩ := follows_of_mem_closure hplace
        have taken : Point.Takes c here ⟨some c, cs⟩ := ⟨rfl, rfl⟩
        obtain ⟨k', way'⟩ := Accepts.of_silently silent (.step (step_of_after? hafter taken) way)
        refine .inr ⟨s, hs, c :: piece, z, k', ⟨_, taken, hpiece⟩, ?_, way'⟩
        rw [hn, Text.byteLength_cons, Nat.add_assoc]

/-! ### Searches -/

theorem exists_of_searchFrom (h : p.searchFrom cs before offset = some n) :
    ∃ front piece a z k, Point.Reads front ⟨before, cs⟩ a ∧ Point.Reads piece a z ∧
      n = offset + Text.byteLength front + Text.byteLength piece ∧ p.Accepts k 0 a z := by
  -- a run from the first instruction at a point
  have found : ∀ {cs : List Char} {before : Option Char} {offset n : Nat},
      p.run cs before offset [0] none = some n →
        ∃ piece z k, Point.Reads piece ⟨before, cs⟩ z ∧ n = offset + Text.byteLength piece ∧
          p.Accepts k 0 ⟨before, cs⟩ z := by
    intro cs before offset n h
    obtain ⟨⟨⟩⟩ | ⟨s, hs, piece, z, k, hpiece, hn, way⟩ := exists_of_run h
    rw [List.mem_singleton] at hs
    exact ⟨piece, z, k, hpiece, hn, hs ▸ way⟩
  induction cs generalizing before offset with
  | nil =>
    obtain ⟨piece, z, k, hpiece, hn, way⟩ := found h
    exact ⟨[], piece, _, z, k, rfl, hpiece, hn, way⟩
  | cons c cs ih =>
    rw [searchFrom] at h
    split at h
    · -- a way begins here, or else further on
      next m hrun =>
      cases h
      obtain ⟨piece, z, k, hpiece, hn, way⟩ := found hrun
      exact ⟨[], piece, _, z, k, rfl, hpiece, hn, way⟩
    · split at h
      · cases h
      · obtain ⟨front, piece, a, z, k, hfront, hpiece, hn, way⟩ := ih h
        refine ⟨c :: front, piece, a, z, k, ⟨_, ⟨rfl, rfl⟩, hfront⟩, hpiece, ?_, way⟩
        rw [hn, Text.byteLength_cons, Nat.add_assoc offset]

/-- **What a search finds** is the end of a match. -/
theorem exists_of_search {tree : Node} (h : (ofNode tree).search text = some n) :
    ∃ front piece a z, Point.Reads front ⟨none, text⟩ a ∧ Point.Reads piece a z ∧
      n = Text.byteLength front + Text.byteLength piece ∧ tree.Spans a z := by
  obtain ⟨front, piece, a, z, k, hfront, hpiece, hn, way⟩ := exists_of_searchFrom h
  rw [Nat.zero_add] at hn
  exact ⟨front, piece, a, z, hfront, hpiece, hn, spans_of_accepts way⟩

/-- **A pattern that asks for the start of the text first** is found there only, and the length is
that of a match. -/
theorem matchesTo_of_search {tree : Node}
    (h : (ofNode (.seqs [.look .textStart, tree])).search text = some n) :
    tree.MatchesTo text n := by
  obtain ⟨front, piece, a, z, hfront, hpiece, hn, hspans⟩ := exists_of_search h
  obtain ⟨_, ⟨hstart, rfl⟩, htree⟩ := Node.spans_seqs.mp hspans
  -- nothing is in front of the start
  obtain rfl : front = [] := hfront.eq_nil_of_before (Option.isNone_iff_eq_none.mp hstart)
  obtain rfl : (⟨none, text⟩ : Point) = a := hfront
  rw [Text.byteLength_nil, Nat.zero_add] at hn
  exact ⟨piece, z, hpiece, Node.spansAll_singleton.mp htree, hn.symm⟩

end Program
end InlineMarkup.Pattern
