import InlineMarkup.Pattern
import InlineMarkup.Proofs.Pattern.Grouping
import InlineMarkup.Proofs.Pattern.Search

/-!
# Anchored patterns

A constraint by pattern searches for the pattern in a group behind the mark for the start of the
text. It is meant to measure at the start only, and a pattern that can be read by itself is measured
there: in the group it is read as it is by itself, so its tree stands behind the mark as one part,
and what the search finds begins at the mark.

The group is made by its text, though. A text that closes the group and opens another one is not a
pattern by itself, but is accepted, and what it has outside of the first group is not bound to the
start. `a)|(b` in its group is `^(?:a)|(b)`, which finds a `b` anywhere, and the length is counted
from the start all the same.

* `Pattern.eq_of_anchored` — the tree in the group is the mark and the tree by itself.
* `Constraint.measures_iff_isPattern` — a measured length is the end of a match of the pattern at
  the start exactly if the pattern can be read by itself.
* `Constraint.not_forall_anchored` — some texts cannot, and are accepted.
-/

namespace InlineMarkup

namespace Pattern

/-! ### Reading -/

/-- What surrounds the group that a pattern is put into. -/
def anchor : GroupFrame := ⟨[⟨.look .textStart, 0, true⟩], [], .initial, none⟩

theorem readAll?_anchor (fuel : Nat) (cs : List Char) :
    readAll? (fuel + 2) .initial ('^' :: '(' :: '?' :: ':' :: cs) =
      readAll? fuel (Reader.initial.under anchor) cs := rfl

/-- **The tree of an anchored pattern** is the mark for the start and the pattern's own tree. -/
theorem eq_of_anchored {pattern : String} {tree whole : Node}
    (htree : Node.ofText? pattern.toList = some tree)
    (hwhole : Node.ofText? (anchoredText pattern) = some whole) :
    whole = .seqs [.look .textStart, tree] := by
  have htext : anchoredText pattern = '^' :: '(' :: '?' :: ':' :: (pattern.toList ++ [')']) := rfl
  have hlength : (anchoredText pattern).length = pattern.toList.length + 3 + 2 := by
    rw [htext]
    simp
  -- both texts are read to their ends, and both readers have a tree
  obtain ⟨r, hread, htree⟩ := Option.bind_eq_some_iff.mp htree
  obtain ⟨r', hread', hwhole⟩ := Option.bind_eq_some_iff.mp hwhole
  split at htree
  · -- the pattern by itself leaves no group open, so under it only the one around it is
    next hclosed =>
    cases htree
    have hstack : (r.under anchor).stack = [anchor] := by
      rw [Reader.under, List.isEmpty_iff.mp hclosed.1, List.nil_append]
    rw [hlength, htext, readAll?_anchor] at hread'
    have hfuel : pattern.toList.length < pattern.toList.length + 3 := by omega
    split at hwhole
    · next hclosed' =>
      cases hwhole
      -- what is in front of the pattern is read in the same state
      obtain hend | hend := readAll?_under anchor hfuel hread (.inl rfl)
      · -- the parenthesis closes the group
        rw [hend, Reader.closeGroup?, hstack] at hread'
        cases hread'
        exact Node.alts_seqs_look
      · -- the group stays open, which no pattern may leave
        rw [hend] at hread'
        cases hread'
        rw [hstack] at hclosed'
        cases hclosed'.1
    · cases hwhole
  · cases htree

end Pattern

open Pattern (Node Program anchoredText)

namespace Constraint

variable {pattern : String} {c : Constraint} {text : List Char} {n : Nat}

/-! ### Measuring -/

/-- What is measured is what a search for the anchored pattern finds. -/
theorem exists_search_of_measure (hc : ofPattern? pattern = some c)
    (hn : c.measure text = some n) :
    0 < n ∧ ∃ whole, Node.ofText? (anchoredText pattern) = some whole ∧
      (Program.ofNode whole).search text = some n := by
  obtain ⟨program, hprogram, rfl⟩ := Option.map_eq_some_iff.mp hc
  obtain ⟨whole, hwhole, hfits⟩ := Option.bind_eq_some_iff.mp hprogram
  obtain ⟨hsearch, hpos⟩ := Option.filter_eq_some_iff.mp hn
  refine ⟨of_decide_eq_true hpos, whole, hwhole, ?_⟩
  -- a program that is too large is no constraint
  split at hfits
  · cases hfits
    exact hsearch
  · cases hfits

/-- **What a constraint by pattern measures** is the positive length of a match of the pattern at
the start of the text exactly if the pattern is one by itself. -/
theorem measures_iff_isPattern (hc : ofPattern? pattern = some c) (hn : c.measure text = some n) :
    (0 < n ∧ ∃ tree, Node.ofText? pattern.toList = some tree ∧ tree.MatchesTo text n) ↔
      (Node.ofText? pattern.toList).isSome := by
  constructor
  · rintro ⟨-, tree, htree, -⟩
    exact Option.isSome_iff_exists.mpr ⟨tree, htree⟩
  · intro h
    obtain ⟨tree, htree⟩ := Option.isSome_iff_exists.mp h
    obtain ⟨hpos, whole, hwhole, hsearch⟩ := exists_search_of_measure hc hn
    obtain rfl := Pattern.eq_of_anchored htree hwhole
    exact ⟨hpos, tree, htree, Program.matchesTo_of_search hsearch⟩

/-- The second of two alternatives is measured at the start, and it is a match of the pattern by
itself. -/
theorem measures_iff_isPattern_alternatives :
    ∃ c tree, ofPattern? "foo|ba+" = some c ∧ c.measure "baa foo".toList = some 3 ∧
      Node.ofText? "foo|ba+".toList = some tree ∧ tree.MatchesTo "baa foo".toList 3 := by
  have hmeasured : ((ofPattern? "foo|ba+").bind fun c => c.measure "baa foo".toList) = some 3 := by
    decide +kernel
  obtain ⟨c, hc, hn⟩ := Option.bind_eq_some_iff.mp hmeasured
  have hpattern : (Node.ofText? "foo|ba+".toList).isSome := by decide +kernel
  obtain ⟨-, tree, htree, hmatches⟩ := (measures_iff_isPattern hc hn).mpr hpattern
  exact ⟨c, tree, hc, hn, htree, hmatches⟩

/-- **Not every pattern that is accepted is anchored:** `a)|(b` is no pattern by itself, and in
`xb` it measures what stands in front of the `b` too. -/
theorem not_forall_anchored :
    ¬ ∀ (pattern : String) (c : Constraint) (text : List Char) (n : Nat),
      ofPattern? pattern = some c → c.measure text = some n →
        0 < n ∧ ∃ tree, Node.ofText? pattern.toList = some tree ∧ tree.MatchesTo text n := by
  intro h
  have hmeasured : ((ofPattern? "a)|(b").bind fun c => c.measure "xb".toList) = some 2 := by
    decide +kernel
  have hpattern : Node.ofText? "a)|(b".toList = none := by decide +kernel
  obtain ⟨c, hc, hn⟩ := Option.bind_eq_some_iff.mp hmeasured
  obtain ⟨-, tree, htree, -⟩ := h _ c _ 2 hc hn
  cases hpattern.symm.trans htree

end Constraint
end InlineMarkup
