import InlineMarkup.Proofs.RoundTrip
import InlineMarkup.Proofs.UnderWay

/-!
# Unclosed markup

An opening delimiter behind which the closing one never comes opens nothing. The nested scan of what
follows is run all the same, and may open and close branches of its own before it comes to the end
of the text; but then it has failed as a whole, and nothing of it is left.

* `Grammar.Unclosed` — behind no opening delimiter of the grammar's own types does the closing one
  occur. It goes over to what is left of a text (`Grammar.Unclosed.behind`).
* `Scan.Reads.unclosed` — so a reading of such a text is one in which no nesting is allowed.
* `Tokenizer.tokenize_unclosed` — no branch is in its tokens, they are the same under every limit,
  and if the grammar has no leaf types they are one word.
-/

namespace InlineMarkup

namespace Grammar

/-- **Unclosed markup.** Behind no opening delimiter of the grammar's own types does the closing
delimiter of that type occur. -/
def Unclosed (g : Grammar) (text : List Char) : Prop :=
  ∀ kind start stop inner, .branch kind start stop inner ∈ g →
    ∀ interior, start.toList ++ interior <:+ text → ¬ stop.toList <:+: interior

/-- The end of a text is unclosed with the whole. -/
theorem Unclosed.behind {g : Grammar} {text rest : List Char} (h : g.Unclosed text)
    (hrest : rest <:+ text) : g.Unclosed rest :=
  fun kind start stop inner hmem interior hstart =>
    h kind start stop inner hmem interior (hstart.trans hrest)

end Grammar

namespace Scan

variable {limit : Nat} {level : Level} {pending : Option Leaf} {coming rest : List Char}
  {tokens : List Token}

/-- **A branch that opens is closed.** -/
theorem stop_infix_of_opening {kind start stop : String} {inner : Option Grammar}
    {interior : List Char} {closed : Closed} (hlevel : level.Proper)
    (hmem : .branch kind start stop inner ∈ level.rules)
    (h : opening limit level (.branch kind start stop inner) interior = some closed) :
    stop.toList <:+: interior := by
  obtain ⟨-, -, l, -, houtcome⟩ := opening_eq_some_iff.mp h
  obtain ⟨front, tail, hinterior, -⟩ :=
    interior_eq_of_outcome (hlevel.inside hmem rfl) houtcome
  exact ⟨front, tail, by rw [hinterior, List.append_assoc]⟩

/-- Where markup is unclosed, what is decided is decided without nesting. -/
theorem Decided.unclosed {c : Char} {cs : List Char} {action : Action} (hlevel : level.Proper)
    (hunclosed : level.rules.Unclosed (c :: cs)) (h : Decided limit level pending c cs action) :
    Decided 0 level pending c cs action := by
  cases h with
  | grown next same =>
    -- all but an opened branch can be decided without nesting
    exact .grown next same
  | ended next fresh own => exact .ended next fresh own
  | begun comes short => exact .begun comes short
  | whole comes long => exact .whole comes long
  | givenUp comes fails => exact .givenUp comes (opening_zero _ _ _)
  | opened comes opens =>
    -- it would be closed
    have hmem := Level.mem_of_next_branch comes.next rfl
    have hstop := stop_infix_of_opening hlevel hmem opens
    have hcut := Level.next_branch_cut comes.next comes.foreign
    exact absurd hstop (hunclosed _ _ _ _ hmem _ ⟨[], hcut⟩)

/-- **A reading of unclosed markup** is one without nesting. -/
theorem Reads.unclosed (h : Reads limit level pending coming tokens rest) (hlevel : level.Proper)
    (hunclosed : level.rules.Unclosed coming) : Reads 0 level pending coming tokens rest := by
  induction h with
  | finished top => exact .finished top
  | ended ends => exact .ended (ends.unclosed hlevel hunclosed)
  | absorbed goes onward ih =>
    exact .absorbed (goes.unclosed hlevel hunclosed)
      (ih hlevel (hunclosed.behind (List.suffix_cons _ _)))
  | whole comes long onward ih =>
    exact .whole comes long (ih hlevel (hunclosed.behind (List.suffix_append _ _)))
  | branch comes filled within onward ihin ihon =>
    -- the interior has been read up to a closing delimiter, which is not there
    have hmem := Level.mem_of_next_branch comes.next rfl
    have hstop := (List.prefix_append _ _).isInfix.trans within.suffix.isInfix
    exact absurd hstop (hunclosed _ _ _ _ hmem _ List.suffix_rfl)

/-- Without nesting there are no branches. -/
theorem Reads.isLeaf_of_zero (h : Reads 0 level none coming tokens rest) :
    ∀ v ∈ Token.walkList 0 tokens, v.token.isLeaf = true := by
  intro v hv
  refine Reads.forall_walkList (P := fun limit _ v => limit = 0 → v.token.isLeaf = true) ?_ ?_ ?_
    h (fun _ => nofun) 0 v hv rfl
  · intro limit depth kind text hfilled hzero
    rfl
  · -- a branch takes a level, and there is none
    intro limit depth kind children hfilled hzero
    cases hzero
  · intro limit depth v hinside hzero
    cases hzero

/-- Without nesting and without leaf types a whole text is plain. -/
theorem plain_without_leaves (htop : level.closing = none)
    (hbranches : ∀ t ∈ level.rules, t.isLeaf = false) (text : List Char) :
    Plain 0 level text [] := by
  intro xs c ys _
  rw [List.append_nil]
  obtain ⟨t, n, hnext⟩ : ∃ t n, level.next (c :: ys) = ⟨t, n⟩ := ⟨_, _, rfl⟩
  have hforeign : ∀ t : TokenType, level.closing.any t.sameKind = false := by
    intro t
    rw [htop]
    rfl
  -- a rule that comes next is a branch, which is given up
  rcases Level.next_cases hnext with ⟨hmem, -⟩ | ⟨rfl, rfl⟩
  · cases t with
    | leaf kind constraint => cases hbranches _ hmem
    | branch kind start stop inner =>
      exact .givenUp ⟨hnext, rfl, hforeign _⟩ (opening_zero _ _ _)
  · exact .begun ⟨hnext, rfl, hforeign _⟩ (Nat.le_refl _)

end Scan

namespace Tokenizer

open Scan

/-- **Unclosed markup is text.** If behind no opening delimiter of a valid grammar's own types the
closing one occurs, then no branch is in the tokens of the text, which are the same as without any
nesting. If moreover the grammar has no leaf types of its own, they are one word. -/
theorem tokenize_unclosed (g : Grammar) (hg : g.Valid) (text : String)
    (hunclosed : g.Unclosed text.toList) (maxDepth : Nat) :
    let tokens := (⟨g, maxDepth⟩ : Tokenizer).tokenize text
    (∀ v ∈ Token.walkList 0 tokens, v.token.isLeaf = true) ∧
      tokens = (⟨g, 0⟩ : Tokenizer).tokenize text ∧
      ((∀ t ∈ g, t.isLeaf = false) → text ≠ "" → tokens = [.word text]) := by
  have hlevel := Level.proper_top hg
  have hreads := reads_tokenize (t := ⟨g, maxDepth⟩) hg text
  -- the same reading serves the tokenizer that allows for no nesting
  have hflat := hreads.unclosed hlevel hunclosed
  have hsame := tokenize_eq_of_reads (t := ⟨g, 0⟩) hg hflat
  refine ⟨hflat.isLeaf_of_zero, hsame.symm, fun hbranches hfilled => ?_⟩
  -- without leaf types each character is text
  have hplain : Plain 0 (.top g) text.toList [] := plain_without_leaves rfl hbranches text.toList
  have hword : Reads 0 (.top g) none (text.toList ++ []) [.word (String.ofList text.toList)] [] :=
    .plain hlevel hplain (mt String.toList_eq_nil_iff.mp hfilled) (.finished rfl)
  rw [List.append_nil, String.ofList_toList] at hword
  calc (⟨g, maxDepth⟩ : Tokenizer).tokenize text
    _ = (⟨g, 0⟩ : Tokenizer).tokenize text := hsame.symm
    _ = [.word text] := tokenize_eq_of_reads (t := ⟨g, 0⟩) hg hword

/-- A box that is not closed. The emphasis in it opens and closes, and then counts for nothing. -/
theorem tokenize_unclosed_box :
    let em : TokenType := .surround "em" "__"
    let box : TokenType := (TokenType.delimited "box" "[" "]").withGrammar [em]
    let t : Tokenizer := ⟨[box], 64⟩
    t.grammar.Valid ∧ t.grammar.Unclosed "é[__x__ y".toList ∧
      (opening 63 ((Level.top t.grammar).inside box) em "x__ y".toList).map Closed.tokens =
        some [.word "x"] ∧
      t.tokenize "é[__x__ y" = [.word "é[__x__ y"] := by
  intro em box t
  have hg : t.grammar.Valid := by
    refine .intro rfl ?_
    intro u hu g hinner
    obtain rfl := List.mem_singleton.mp hu
    cases hinner
    exact Grammar.valid_of_flat rfl (by decide)
  have hunclosed : t.grammar.Unclosed "é[__x__ y".toList := by
    intro kind start stop inner hmem interior hsuffix hstop
    injection List.mem_singleton.mp hmem with _ _ hclosing _
    subst hclosing
    -- the closing delimiter is not in the text at all
    have hin : ']' ∈ "é[__x__ y".toList := by
      apply hsuffix.subset
      exact List.mem_append_right _ (hstop.subset (by decide +kernel))
    revert hin
    decide +kernel
  have hword := (tokenize_unclosed t.grammar hg "é[__x__ y" hunclosed 64).2.2
  exact ⟨hg, hunclosed, by decide +kernel, hword (by decide) (by decide)⟩

end Tokenizer
end InlineMarkup
