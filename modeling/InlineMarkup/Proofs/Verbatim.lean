import InlineMarkup.Proofs.Moments
import InlineMarkup.Proofs.UnderWay

/-!
# Verbatim interiors

A branch whose own grammar is empty holds its interior as it is written. The scan of that interior
knows one type, the branch itself, and that one by its closing delimiter, so it is a search: all of
the text in front of the first closing delimiter is one word. `Text.First` says what the first
occurrence of a delimiter is, and `Scan.outcome_verbatim` that the nested scan finds it.

* `Scan.opening_verbatim_iff` — the branch opens exactly if the closing delimiter occurs and is not
  what the interior begins with.
* `Tokenizer.verbatim_branch` — so it is at every moment of a run, whatever has been tried and is
  remembered by then.
-/

namespace InlineMarkup

namespace Text

/-- **The first occurrence** of a mark in a text is the one behind `front`. -/
structure First (mark text front : List Char) : Prop where
  occurs : front ++ mark <+: text
  first : ∀ k < front.length, ¬ mark <+: text.drop k

/-- What occurs in a text has a first occurrence. -/
theorem exists_first {mark text : List Char} (h : mark <:+: text) :
    ∃ front, First mark text front := by
  induction text with
  | nil =>
    obtain rfl := List.eq_nil_of_infix_nil h
    exact ⟨[], List.prefix_rfl, fun _ => nofun⟩
  | cons c cs ih =>
    -- the mark stands here, or its first occurrence is further on
    by_cases hhere : mark <+: c :: cs
    · exact ⟨[], hhere, fun _ => nofun⟩
    · obtain ⟨front, hoccurs, hfirst⟩ := ih ((List.infix_cons_iff.mp h).resolve_left hhere)
      refine ⟨c :: front, List.cons_prefix_cons.mpr ⟨rfl, hoccurs⟩, ?_⟩
      intro k hk
      cases k with
      | zero => exact hhere
      | succ k => exact hfirst k (Nat.lt_of_succ_lt_succ hk)

end Text

namespace Scan

variable {limit : Nat} {level : Level} {kind start stop : String} {interior front : List Char}

/-- Inside a verbatim branch what does not close it is text. -/
theorem plain_verbatim {behind : List Char}
    (hinside : (level.inside (.branch kind start stop (some []))).Proper)
    (h : ∀ k < front.length, ¬ stop.toList <+: (front ++ behind).drop k) :
    Plain limit (level.inside (.branch kind start stop (some []))) front behind := by
  rintro xs c ys rfl
  -- at no character of the front does the closing delimiter stand
  have hnot : ¬ stop.toList <+: c :: (ys ++ behind) := by
    have hdrop := h xs.length (by simp)
    rwa [List.append_assoc, List.drop_left] at hdrop
  apply Decided.unmatched hinside
  intro t ht
  -- the branch itself is the only rule
  obtain rfl : t = .branch kind start stop (some []) := List.mem_singleton.mp ht
  apply Option.eq_none_iff_forall_ne_some.mpr
  intro n hmatch
  exact hnot (TokenType.matches?_own_iff.mp hmatch).1

/-- In front of its closing delimiter the level inside a verbatim branch ends. -/
theorem Reads.ended_verbatim {pending : Option Leaf} {tail : List Char} (hstop : stop ≠ "")
    (hpending : (pending.any fun l => l.kind == kind) = false) :
    Reads limit (level.inside (.branch kind start stop (some []))) pending (stop.toList ++ tail)
      (Leaf.finish pending) (stop.toList ++ tail) := by
  -- the closing delimiter stands here, and the branch is the only rule that could fit
  have hmatch : (TokenType.branch kind start stop (some [])).matches?
      (level.inside (.branch kind start stop (some []))).closing (stop.toList ++ tail) =
        some stop.utf8ByteSize :=
    TokenType.matches?_own_iff.mpr ⟨List.prefix_append _ _, rfl⟩
  have hnext := (level.inside (.branch kind start stop (some []))).next_eq_of_unique
    List.mem_cons_self hmatch fun u hu _ => List.mem_singleton.mp hu
  obtain ⟨c, cs, hcons⟩ : ∃ c cs, stop.toList ++ tail = c :: cs :=
    List.exists_cons_of_ne_nil (by simp [hstop])
  rw [hcons] at hnext ⊢
  exact .ended (.ended hnext hpending (TokenType.sameKind_iff.mpr rfl))

/-- **The scan of a verbatim interior** is a search for the closing delimiter. What stands in front
of its first occurrence is one word, if there is anything. -/
theorem outcome_verbatim (hlevel : level.Proper)
    (hmem : .branch kind start stop (some []) ∈ level.rules)
    (h : Text.First stop.toList interior front) :
    outcome limit (level.inside (.branch kind start stop (some []))) interior =
      some ⟨if front = [] then [] else [.word (String.ofList front)], Text.byteLength front⟩ := by
  have hinside := hlevel.inside hmem rfl
  have hstop := (hlevel.rules.marks_ne_empty hmem).2
  obtain ⟨⟨tail, rfl⟩, hfirst⟩ := h
  rw [List.append_assoc] at hfirst ⊢
  have hreads : Reads limit (level.inside (.branch kind start stop (some []))) none
      (front ++ (stop.toList ++ tail))
      (if front = [] then [] else [.word (String.ofList front)]) (stop.toList ++ tail) := by
    by_cases hfront : front = []
    · -- the delimiter stands at the front
      subst hfront
      rw [if_pos rfl]
      exact .ended_verbatim hstop rfl
    · rw [if_neg hfront]
      apply Reads.plain hinside (plain_verbatim hinside hfirst) hfront
      -- the word under way goes on unless the branch is of its kind, which is reserved
      have hne := (hlevel.rules.kind_ne_word hmem).symm
      exact .ended_verbatim hstop (beq_false_of_ne hne)
  obtain ⟨n, hresume, hsize⟩ := hreads.resume hinside
  rw [Text.byteLength_append front] at hsize
  rw [outcome_eq_resume, hresume, Nat.add_right_cancel hsize]

/-- **A verbatim branch opens** exactly if its closing delimiter occurs in what follows and is not
what that begins with. It then holds one word. -/
theorem opening_verbatim_iff (hlevel : level.Proper)
    (hmem : .branch kind start stop (some []) ∈ level.rules) {closed : Closed} :
    opening (limit + 1) level (.branch kind start stop (some [])) interior = some closed ↔
      ∃ front, front ≠ [] ∧ Text.First stop.toList interior front ∧
        closed = ⟨[.word (String.ofList front)], Text.byteLength front⟩ := by
  rw [opening_eq_some_iff]
  constructor
  · rintro ⟨-, hfilled, l, hl, houtcome⟩
    obtain rfl : limit = l := Nat.succ.inj hl
    -- the nested scan has ended in front of a closing delimiter, so there is a first one
    obtain ⟨before, tail, hcut, -⟩ := interior_eq_of_outcome (hlevel.inside hmem rfl) houtcome
    have hoccurs : stop.toList <:+: interior := ⟨before, tail, by rw [hcut, List.append_assoc]⟩
    obtain ⟨front, hfirst⟩ := Text.exists_first hoccurs
    rw [outcome_verbatim hlevel hmem hfirst, Option.some.injEq] at houtcome
    subst houtcome
    have hfront : front ≠ [] := fun hnil => hfilled (if_pos hnil)
    refine ⟨front, hfront, hfirst, ?_⟩
    rw [if_neg hfront]
  · rintro ⟨front, hfront, hfirst, rfl⟩
    refine ⟨?_, List.cons_ne_nil _ _, limit, rfl, ?_⟩
    · -- the front is not empty, so neither is the interior
      rintro rfl
      have hnil := List.prefix_nil.mp hfirst.occurs
      exact hfront (List.append_eq_nil_iff.mp hnil).1
    · rw [outcome_verbatim hlevel hmem hfirst, if_neg hfront]

end Scan

namespace Tokenizer

open Scan

/-- **Verbatim interiors.** At every moment of a run at which a branch whose own grammar is empty
may still be opened, and `interior` follows its opening delimiter, it opens exactly if its closing
delimiter occurs in `interior` and does not stand at its front. What stands in front of the first
occurrence is one word, and that is all the branch holds. The branch is then the one token that is
produced, and it covers this word and the two delimiters. Otherwise nothing comes of the attempt,
and the character is text. -/
theorem verbatim_branch (t : Tokenizer) (hg : t.grammar.Valid) (text : String) {m : Moment}
    (hm : t.Reaches text m) {kind start stop : String} {interior : List Char}
    (hmem : .branch kind start stop (some []) ∈ m.level.rules)
    (hdepth : m.level.depth < t.maxDepth) (hcoming : m.coming = start.toList ++ interior) :
    (∀ closed, m.attempt (.branch kind start stop (some [])) start interior = some closed ↔
      ∃ front, front ≠ [] ∧ Text.First stop.toList interior front ∧
        closed = ⟨[.word (String.ofList front)], Text.byteLength front⟩) ∧
    ∀ c cs, m.coming = c :: cs →
      Comes m.level m.pending m.coming (.branch kind start stop (some [])) start.utf8ByteSize →
      (∀ front, front ≠ [] → Text.First stop.toList interior front →
        (m.act c cs).1 = .emit (.branch kind [.word (String.ofList front)])
          (start.utf8ByteSize + Text.byteLength front + stop.utf8ByteSize)) ∧
      ((∀ front, Text.First stop.toList interior front → front = []) →
        (m.act c cs).1 = .absorb wordKind) := by
  have hsound := sound_of_reaches hg hm
  -- above the deepest level one more is allowed
  obtain ⟨limit, hlimit⟩ : ∃ limit, m.limit = limit + 1 :=
    Nat.exists_eq_succ_of_ne_zero (by have := hsound.depth; omega)
  have hattempt := hsound.attempt_eq hg hmem rfl hcoming
  have hopening : ∀ closed,
      opening m.limit m.level (.branch kind start stop (some [])) interior = some closed ↔
        ∃ front, front ≠ [] ∧ Text.First stop.toList interior front ∧
          closed = ⟨[.word (String.ofList front)], Text.byteLength front⟩ := by
    intro closed
    rw [hlimit]
    exact opening_verbatim_iff hsound.level hmem
  refine ⟨fun closed => hattempt ▸ hopening closed, ?_⟩
  -- what is done with the character hangs on whether the branch opens
  intro c cs hcons comes
  rw [hcons] at comes
  have hact := (hsound.act_fst hg hcons).1
  rw [decision_branch comes, ← hcons, hcoming, Text.dropBytes_toList_append] at hact
  constructor
  · -- the branch opens, and is what is emitted
    intro front hfront hfirst
    rw [hact, (hopening _).mpr ⟨front, hfront, hfirst, rfl⟩]
  · intro hnone
    -- whatever opened would have a word in it that is in front of a first occurrence
    have hfails : opening m.limit m.level (.branch kind start stop (some [])) interior = none := by
      apply Option.eq_none_iff_forall_ne_some.mpr
      intro closed hopens
      obtain ⟨front, hfront, hfirst, -⟩ := (hopening closed).mp hopens
      exact hfront (hnone front hfirst)
    rw [hact, hfails]

/-- A fence behind a character, with markup in it that is kept as it is. -/
theorem verbatim_branch_fence :
    let t : Tokenizer := ⟨Grammar.stock, 64⟩
    let s : Session := ((t.start "é```*b```").act 'é' "```*b```".toList).2
    let m : Moment := (t.start "é```*b```").absorbed wordKind 'é' "```*b```".toList s
    let fence : TokenType := .branch "pre" "```" "```" (some [])
    t.grammar.Valid ∧ t.Reaches "é```*b```" m ∧ fence ∈ m.level.rules ∧
      m.coming = "```".toList ++ "*b```".toList ∧ m.level.depth < t.maxDepth ∧
      m.attempt fence "```" "*b```".toList = some ⟨[.word "*b"], 2⟩ ∧
      (m.act '`' "``*b```".toList).1 = .emit (.branch "pre" [.word "*b"]) 8 := by
  intro t s m fence
  have hg : t.grammar.Valid := Grammar.valid_stock
  -- no rule fits at the first character
  have hfirst : (t.start "é```*b```").coming = 'é' :: "```*b```".toList := by decide +kernel
  have hword : ((t.start "é```*b```").act 'é' "```*b```".toList).1 = .absorb wordKind := by
    rw [((sound_of_reaches hg .refl).act_fst hg hfirst).1]
    exact (Decided.unmatched (Level.proper_top hg) (by decide +kernel)).decision_eq
  have hm : t.Reaches "é```*b```" m := .single (.absorbed hfirst (Prod.ext hword rfl))
  have hmem : fence ∈ m.level.rules := List.mem_cons_self
  have hcoming : m.coming = "```".toList ++ "*b```".toList := by decide +kernel
  have hcons : m.coming = '`' :: "``*b```".toList := by decide +kernel
  -- then the fence comes next, which is the first of the rules
  have hnext : m.level.next m.coming = ⟨fence, 3⟩ := by
    have hfit : fence.fit none m.coming = .length 3 := by decide +kernel
    show (Match.first? none m.coming (fence :: _)).2.getD _ = _
    rw [Match.first?, hfit]
    rfl
  have hcomes : Comes m.level m.pending m.coming fence "```".utf8ByteSize := ⟨hnext, rfl, rfl⟩
  have hstop : Text.First "```".toList "*b```".toList "*b".toList :=
    ⟨by decide +kernel, by decide +kernel⟩
  have hne : "*b".toList ≠ [] := by decide +kernel
  obtain ⟨hopens, hacts⟩ := verbatim_branch t hg "é```*b```" hm hmem (by decide) hcoming
  refine ⟨hg, hm, hmem, hcoming, by decide, ?_, ?_⟩
  · exact (hopens _).mpr ⟨_, hne, hstop, rfl⟩
  · exact (hacts _ _ hcons hcomes).1 _ hne hstop

end Tokenizer
end InlineMarkup
