import InlineMarkup.Constraint
import InlineMarkup.Proofs.RoundTrip
import InlineMarkup.Proofs.UnderWay

/-!
# Tokens by the rules of their level

A token tells its kind and not the type that has made it, and a kind can mean different types in
different grammars. Where a token stands decides: the tokens of a text are made by the types of the
grammar, those inside a branch by the rules that hold inside it.

* `Token.Typed` — a token whose kind is one of the rules that hold where it stands, and so on inside
  it.
* `Scan.Reads.typed` — every token of a reading is typed by the rules of its level.
* `Tokenizer.typed_of_mem_tokenize` — so is every token of a text by the grammar.

The leaf under way is carried along: its kind was found by the same rules that its next character
is read with.
-/

namespace InlineMarkup

/-- **Typed tokens.** `Typed rules around token` says that the kind of the token is declared by the
rules, or is the catch-all one, and that a branch is not of the kind `around` of the branch directly
around it. Inside a branch that has a grammar of its own the rules are the branch and that grammar;
inside another one they are those around it. -/
inductive Token.Typed : Grammar → Option String → Token → Prop where
  | word {rules around text} : Typed rules around (.word text)
  | leaf {rules around kind constraint text} (mem : .leaf kind constraint ∈ rules) :
      Typed rules around (.leaf kind text)
  | inherited {rules around kind start stop children}
      (mem : .branch kind start stop none ∈ rules) (foreign : around ≠ some kind)
      (within : ∀ token ∈ children, Typed rules (some kind) token) :
      Typed rules around (.branch kind children)
  | restricted {rules around kind start stop children} {inner : Grammar}
      (mem : .branch kind start stop (some inner) ∈ rules) (foreign : around ≠ some kind)
      (within : ∀ token ∈ children,
        Typed (.branch kind start stop (some inner) :: inner) (some kind) token) :
      Typed rules around (.branch kind children)

namespace Level

/-- The kind of the branch that a level is inside of. -/
def around (level : Level) : Option String := level.closing.map TokenType.kind

/-- **Typed at a level:** by its rules, inside its branch. -/
def Types (level : Level) (token : Token) : Prop := token.Typed level.rules level.around

variable {level : Level}

/-- A branch is typed if it is one of the rules, the level is not inside of it, and what it holds is
typed at the level inside. -/
theorem types_branch {kind start stop : String} {inner : Option Grammar} {children : List Token}
    (ht : .branch kind start stop inner ∈ level.rules)
    (foreign : level.closing.any (TokenType.branch kind start stop inner).sameKind = false)
    (within : ∀ token ∈ children, (level.inside (.branch kind start stop inner)).Types token) :
    level.Types (.branch kind children) := by
  have haround : level.around ≠ some kind := by
    intro hkind
    obtain ⟨b, hb, hbkind⟩ := Option.map_eq_some_iff.mp hkind
    rw [hb, Option.any_some, TokenType.sameKind, hbkind] at foreign
    simp [TokenType.kind] at foreign
  cases inner with
  | none => exact .inherited ht haround within
  | some g => exact .restricted ht haround within

end Level

namespace Scan

variable {limit : Nat} {level : Level} {pending : Option Leaf} {coming rest : List Char}
  {tokens : List Token}

/-- A leaf that comes next is typed. -/
theorem types_leaf_of_next {kind : String} {constraint : Option Constraint} {n : Nat}
    (hnext : level.next coming = ⟨.leaf kind constraint, n⟩) (text : String) :
    level.Types (.leaf kind text) := by
  rcases Level.next_cases hnext with ⟨hmem, -⟩ | ⟨hword, -⟩
  · exact .leaf hmem
  · cases hword
    exact .word

/-- **The leaf that a character goes to is typed** if the one under way is. -/
theorem Decided.types_absorb {c : Char} {cs : List Char} {kind : String}
    (h : Decided limit level pending c cs (.absorb kind))
    (hpending : ∀ l, pending = some l → ∀ text, level.Types (.leaf l.kind text)) (text : String) :
    level.Types (.leaf kind text) := by
  cases h with
  | @grown t n next same =>
    -- whatever type comes next, the leaf under way has its kind
    cases pending with
    | none => cases same
    | some l =>
      have hkind : l.kind = t.kind := by simpa using same
      exact hkind ▸ hpending l rfl text
  | begun comes short => exact types_leaf_of_next comes.next text
  | givenUp comes fails => exact .word

/-- A finished leaf is typed if it was so under way. -/
theorem types_finish (hpending : ∀ l, pending = some l → ∀ text, level.Types (.leaf l.kind text)) :
    ∀ token ∈ Leaf.finish pending, level.Types token := by
  intro token htoken
  obtain ⟨l, hl, rfl⟩ : ∃ l, pending = some l ∧ l.token = token := by
    simpa [Leaf.finish] using htoken
  exact hpending l hl l.text

/-- **Every token of a reading is typed** by the rules of its level. -/
theorem Reads.typed (h : Reads limit level pending coming tokens rest) (hlevel : level.Proper)
    (hpending : ∀ l, pending = some l → ∀ text, level.Types (.leaf l.kind text)) :
    ∀ token ∈ tokens, level.Types token := by
  -- one case for each rule of scanning; what is invariant is that the leaf under way is typed
  induction h with
  | finished top => exact types_finish hpending
  | ended ends => exact types_finish hpending
  | @absorbed limit level pending c cs kind tokens rest goes onward ih =>
    intro token htoken
    obtain ⟨done, hdone, hfinish, -⟩ := Leaf.absorb_held kind c pending
    rw [hfinish] at htoken
    rcases List.mem_append.mp htoken with htoken | htoken
    · -- the leaf that ends was under way, or none does; and the other one is typed with the
      -- character
      refine types_finish ?_ token htoken
      intro l hl
      rcases hdone with rfl | rfl
      · cases hl
      · exact hpending l hl
    · refine ih hlevel ?_ token htoken
      rintro l ⟨⟩ text
      rw [Leaf.absorb_snd_kind]
      exact goes.types_absorb hpending text
  | @whole limit level pending kind constraint text cs tokens rest comes long onward ih =>
    intro token htoken
    rcases List.mem_append.mp htoken with htoken | htoken
    · exact types_finish hpending token htoken
    rcases List.mem_cons.mp htoken with rfl | htoken
    · exact types_leaf_of_next comes.next _
    · exact ih hlevel (fun _ => nofun) token htoken
  | @branch limit level pending kind start stop inner interior children cs tokens rest comes filled
      within onward ihin ihon =>
    have hmem := Level.mem_of_next_branch comes.next rfl
    have hinside := hlevel.inside hmem rfl
    intro token htoken
    rcases List.mem_append.mp htoken with htoken | htoken
    · exact types_finish hpending token htoken
    rcases List.mem_cons.mp htoken with rfl | htoken
    · -- the branch itself: what is inside is typed by the rules there
      exact Level.types_branch hmem comes.foreign (ihin hinside fun _ => nofun)
    · exact ihon hlevel (fun _ => nofun) token htoken

end Scan

namespace Tokenizer

/-- **Tokens respect the grammar of their level.** With a valid grammar every token of a text is
typed by the types of the grammar; so no kind stands where the rules do not declare it, however
deep, and no branch stands directly inside a branch of its kind. -/
theorem typed_of_mem_tokenize (t : Tokenizer) (hg : t.grammar.Valid) (text : String) :
    ∀ token ∈ t.tokenize text, token.Typed t.grammar none :=
  (reads_tokenize hg text).typed (Level.proper_top hg) fun _ => nofun

/-- Inside a labelled link only links are known, so the emoji there is text. -/
theorem typed_of_mem_tokenize_links :
    let t : Tokenizer := ⟨Grammar.links, 64⟩
    Grammar.links.Valid ∧
      t.tokenize "<:+1: <b> :+1:" = [.branch "label-link" [.word ":+1: <b"], .word " ",
        .leaf "emoji" ":+1:"] ∧
      ∀ token ∈ t.tokenize "<:+1: <b> :+1:", token.Typed Grammar.links none := by
  intro t
  have hg : Grammar.links.Valid := by
    refine .intro rfl ?_
    intro u hu g hinner
    simp only [Grammar.links, List.mem_cons, List.not_mem_nil, or_false] at hu
    -- one type has a grammar of its own, in which there is one type without
    rcases hu with rfl | rfl | rfl <;> cases hinner
    refine .intro rfl ?_
    intro v hv h hinner
    obtain rfl := List.mem_singleton.mp hv
    cases hinner
  refine ⟨hg, ?_, typed_of_mem_tokenize t hg "<:+1: <b> :+1:"⟩
  rw [tokenize_eq_outcome hg]
  decide +kernel

end Tokenizer
end InlineMarkup
