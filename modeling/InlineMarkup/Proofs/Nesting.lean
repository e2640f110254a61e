import InlineMarkup.Proofs.Canonical
import InlineMarkup.Proofs.RoundTrip

/-!
# How deep tokens stand

A tokenizer takes no more branches inside each other than it allows. The reason is that a reading at
a level where `limit` further levels are allowed has readings one level deeper where `limit` is one
less, and none where it is zero (`Scan.Reads.branches_le`). Whether an outcome has been remembered
makes no difference, since the tokens of a text are those of its reading.

* `Tokenizer.branches_le_maxDepth` — no token of a text is inside more branches than allowed, the
  token itself counting if it is one.
* `Nested.tokenize_text` — as many branches as are allowed can be inside each other, with two marks
  that take turns.
-/

namespace InlineMarkup

namespace Token

/-- **The branches on the way to a token,** the token itself included if it is one. -/
def Visit.branches (v : Visit) : Nat := if v.token.isLeaf then v.depth else v.depth + 1

theorem Visit.depth_le_branches (v : Visit) : v.depth ≤ v.branches := by
  unfold branches
  split
  · exact Nat.le_refl _
  · exact Nat.le_succ _

end Token

/-! ### The bound -/

namespace Scan

variable {limit : Nat} {level : Level} {pending : Option Leaf} {coming rest : List Char}
  {tokens : List Token}

/-- **A reading has no more branches inside each other than are allowed** at its level. -/
theorem Reads.branches_le (h : Reads limit level pending coming tokens rest)
    (hpending : ∀ l, pending = some l → l.text ≠ "") (depth : Nat) :
    ∀ v ∈ Token.walkList depth tokens, v.branches ≤ depth + limit := by
  refine Reads.forall_walkList (P := fun limit depth v => v.branches ≤ depth + limit) ?_ ?_ ?_ h
    hpending depth
  · intro limit depth kind text _
    exact Nat.le_add_right depth limit
  · intro limit depth kind children _
    exact Nat.add_le_add_left (Nat.le_add_left 1 limit) depth
  · -- one level deeper there is one level less to go
    intro limit depth v hv
    rwa [Nat.add_assoc, Nat.add_comm 1 limit] at hv

end Scan

/-! ### Marks that take turns -/

namespace Nested

open Scan

/-- Bold and italic text in turn. -/
def mark (n : Nat) : TokenType :=
  if n % 2 = 0 then .surround "bold" "*" else .surround "italic" "_"

def grammar : Grammar := [mark 0, mark 1]

/-- A letter inside `n` branches. -/
def forest : Nat → List Token
  | 0 => [.word "a"]
  | n + 1 => [.branch (mark n).kind (forest n)]

/-- A letter between `n` opening and `n` closing marks. -/
def text : Nat → String
  | 0 => "a"
  | n + 1 => (mark n).start?.getD "" ++ text n ++ (mark n).stop?.getD ""

example : text 3 = "*_*a*_*" := by decide +kernel

theorem mark_cases (n : Nat) :
    (mark n = .surround "bold" "*" ∧ mark (n + 1) = .surround "italic" "_") ∨
      (mark n = .surround "italic" "_" ∧ mark (n + 1) = .surround "bold" "*") := by
  unfold mark
  rcases Nat.mod_two_eq_zero_or_one n with h | h
  · exact .inl ⟨if_pos h, if_neg (by omega)⟩
  · exact .inr ⟨if_neg (by omega), if_pos (by omega)⟩

theorem mark_mem (n : Nat) : mark n ∈ grammar := by
  rcases mark_cases n with ⟨h, -⟩ | ⟨h, -⟩
  · rw [h]
    exact List.mem_cons_self
  · rw [h]
    exact List.mem_cons_of_mem _ List.mem_cons_self

theorem valid : grammar.Valid := Grammar.valid_of_flat rfl (by decide)

/-- No mark has a grammar of its own, so all levels have the same rules. -/
theorem unambiguous (rules : Grammar) (h : grammar.Usable rules) : rules.Unambiguous := by
  obtain rfl : rules = grammar := by
    induction h with
    | top => rfl
    | inside _ mem inner ih =>
      subst ih
      simp only [grammar, mark, List.mem_cons, List.not_mem_nil, or_false] at mem
      rcases mem with rfl | rfl <;> cases inner
  decide

/-- **The letter inside `n` branches is spelled by the letter between `n` marks** wherever as many
further levels are allowed and the branch around is not that of the first mark. -/
theorem spells (n : Nat) {limit : Nat} (hroom : n ≤ limit) {level : Level}
    (hlevel : level.Certain) (hrules : level.rules = grammar)
    (hclosing : level.closing = none ∨ level.closing = some (mark n)) :
    Spells limit level (forest n) (text n) := by
  induction n generalizing limit level with
  | zero =>
    -- no rule is about the letter, so it is a word
    have hfree : level.rules.Spares "a" := by
      rw [hrules]
      decide
    have hword : Spells limit level [.word "a"] ("a" ++ "") :=
      .word hlevel (by decide) hfree (fun _ => nofun) (.nil hlevel)
    rwa [String.append_empty] at hword
  | succ n ih =>
    obtain ⟨l, rfl⟩ := Nat.exists_eq_succ_of_ne_zero (Nat.ne_zero_of_lt hroom)
    have hmem : mark n ∈ level.rules := hrules ▸ mark_mem n
    -- the branch around is of the other kind, so a new branch opens
    have hforeign : level.closing.any (mark n).sameKind = false := by
      rcases hclosing with h | h
      · rw [h]
        rfl
      · rw [h]
        rcases mark_cases n with ⟨h₁, h₂⟩ | ⟨h₁, h₂⟩ <;> rw [h₁, h₂] <;> decide
    obtain ⟨kind, start, stop, hmark⟩ :
        ∃ kind start stop, mark n = .branch kind start stop none := by
      rcases mark_cases n with ⟨h, -⟩ | ⟨h, -⟩
      · exact ⟨_, _, _, h⟩
      · exact ⟨_, _, _, h⟩
    have hfilled : forest n ≠ [] := by
      cases n <;> exact List.cons_ne_nil _ _
    -- inside, this mark is the one that closes, and one level less is allowed
    have hinside := ih (Nat.le_of_succ_le_succ hroom) (hlevel.inside hmem (by rw [hmark]; rfl))
      (by rw [hmark]; exact hrules) (.inr rfl)
    rw [forest, text]
    rw [hmark] at hmem hforeign hinside ⊢
    have hbranch := Spells.branch hlevel hmem hforeign hfilled hinside (.nil hlevel)
    rwa [String.append_empty] at hbranch

/-- **As many branches can be inside each other as are allowed.** -/
theorem tokenize_text {n maxDepth : Nat} (hroom : n ≤ maxDepth) :
    (⟨grammar, maxDepth⟩ : Tokenizer).tokenize (text n) = forest n := by
  have hspells := spells n hroom ⟨Level.proper_top valid, unambiguous⟩ rfl (.inl rfl)
  have hreads := hspells.reads none [] (fun _ => nofun) (.inl ⟨rfl, rfl⟩)
  rw [List.append_nil] at hreads
  exact Tokenizer.tokenize_eq_of_reads valid hreads

/-- The letter stands inside all branches. -/
theorem mem_walkList_forest (n depth : Nat) :
    ⟨depth + n, .word "a"⟩ ∈ Token.walkList depth (forest n) := by
  induction n generalizing depth with
  | zero => simp [forest, Token.walkList, Token.walkFrom, Token.word]
  | succ n ih =>
    have h := ih (depth + 1)
    rw [Nat.add_right_comm, Nat.add_assoc] at h
    rw [forest, Token.walkList, Token.walkFrom, Token.walkList, List.append_nil]
    exact List.mem_cons_of_mem _ h

end Nested

namespace Tokenizer

/-- **The nesting of tokens is bounded.** With a valid grammar, no token of a text is inside more
branches than the tokenizer allows, the token itself counting if it is a branch. -/
theorem branches_le_maxDepth (t : Tokenizer) (hg : t.grammar.Valid) (text : String) :
    ∀ v ∈ Token.walkList 0 (t.tokenize text), v.branches ≤ t.maxDepth := by
  have h := (reads_tokenize hg text).branches_le (fun _ => nofun) 0
  rwa [Nat.zero_add] at h

/-- The italic interior is read twice. Behind the bold mark, which does not close, no branch may be
inside it; by itself it holds one. -/
theorem branches_le_maxDepth_unclosed :
    let t : Tokenizer := ⟨Grammar.stock, 2⟩
    Grammar.stock.Valid ∧
      t.tokenize "*_~a~_" = [.word "*", .branch "italic" [.branch "strike" [.word "a"]]] ∧
      ∀ v ∈ Token.walkList 0 (t.tokenize "*_~a~_"), v.branches ≤ 2 := by
  intro t
  refine ⟨Grammar.valid_stock, ?_, branches_le_maxDepth t Grammar.valid_stock "*_~a~_"⟩
  rw [tokenize_eq_outcome Grammar.valid_stock]
  decide +kernel

end Tokenizer
end InlineMarkup
