import InlineMarkup.Proofs.Correspondence
import InlineMarkup.Proofs.Priority

/-!
# Kinds are only names

The kinds of a grammar can be replaced by other names. As long as different kinds keep different
names, and none is empty or that of the catch-all kind, the grammar is accepted as before, at every
level, and reads a text in the same way: the tokens have the new names and are otherwise the same.

* `Grammar.rename`, `TokenType.rename` — a grammar under other names, the grammars inside it
  included.
* `Grammar.Declares` — the kinds that occur in a grammar, at any level of nesting.
* `Grammar.Valid.rename` — acceptance under other names.
* `Level.Renamed` — the levels of a grammar, and the same under other names, which correspond
  (`Level.renamed_correspondence`).
* `Tokenizer.tokenize_rename` — the conclusion for the tokens of a text.
-/

namespace InlineMarkup

/-! ### Grammars under other names -/

mutual

/-- **The type under another name,** the types of its own grammar included. -/
def TokenType.rename (name : String → String) : TokenType → TokenType
  | .leaf kind constraint => .leaf (name kind) constraint
  | .branch kind start stop none => .branch (name kind) start stop none
  | .branch kind start stop (some g) =>
    .branch (name kind) start stop (some (Grammar.rename name g))

/-- **The grammar under other names.** -/
def Grammar.rename (name : String → String) : Grammar → Grammar
  | [] => []
  | t :: ts => t.rename name :: Grammar.rename name ts

end

variable {name : String → String}

theorem Grammar.rename_eq_map (name : String → String) (g : Grammar) :
    g.rename name = g.map (TokenType.rename name) := by
  induction g with
  | nil => rfl
  | cons t ts ih => rw [Grammar.rename, ih, List.map_cons]

namespace TokenType

@[simp] theorem kind_rename (t : TokenType) : (t.rename name).kind = name t.kind := by
  rcases t with _ | ⟨_, _, _, _ | _⟩ <;> rfl

@[simp] theorem start?_rename (t : TokenType) : (t.rename name).start? = t.start? := by
  rcases t with _ | ⟨_, _, _, _ | _⟩ <;> rfl

@[simp] theorem stop?_rename (t : TokenType) : (t.rename name).stop? = t.stop? := by
  rcases t with _ | ⟨_, _, _, _ | _⟩ <;> rfl

@[simp] theorem inner?_rename (t : TokenType) :
    (t.rename name).inner? = t.inner?.map (Grammar.rename name) := by
  rcases t with _ | ⟨_, _, _, _ | _⟩ <;> rfl

end TokenType

namespace Grammar

/-- **The kinds that occur in a grammar:** those of its own types and those that occur in the
grammars of these. -/
inductive Declares : Grammar → String → Prop where
  | own {g : Grammar} {t : TokenType} (mem : t ∈ g) : Declares g t.kind
  | inside {g h : Grammar} {t : TokenType} {kind : String} (mem : t ∈ g)
      (inner : t.inner? = some h) (within : Declares h kind) : Declares g kind

variable {g : Grammar} {kind : String}

/-- Inside a branch no other kinds occur. -/
theorem Declares.of_rulesInside {level : Level} {t : TokenType} (ht : t ∈ level.rules)
    (h : Declares (level.rulesInside t) kind) : Declares level.rules kind := by
  unfold Level.rulesInside at h
  cases hinner : t.inner? with
  | none =>
    rw [hinner] at h
    exact h
  | some g =>
    rw [hinner] at h
    cases h with
    | own mem =>
      -- the type of the branch itself, or one that it declares
      rcases List.mem_cons.mp mem with rfl | hu
      · exact .own ht
      · exact .inside ht hinner (.own hu)
    | inside mem inner within =>
      rcases List.mem_cons.mp mem with rfl | hu
      · exact .inside ht inner within
      · exact .inside ht hinner (.inside hu inner within)

end Grammar

/-! ### Acceptance -/

/-- A type without a fault has none under another name that is a proper one, if the types of its own
grammar are not given the same. -/
theorem TokenType.fault?_rename {t : TokenType} (hfault : t.fault? = none)
    (hname : name t.kind ≠ "" ∧ name t.kind ≠ wordKind)
    (hinner : ∀ h, t.inner? = some h → ∀ u ∈ h, name u.kind = name t.kind → u.kind = t.kind) :
    (t.rename name).fault? = none := by
  obtain ⟨-, -, hbranch⟩ := fault?_eq_none_iff.mp hfault
  rw [fault?_eq_none_iff, kind_rename]
  -- its delimiters are the same; a type of its own grammar has its kind only if it had before
  refine ⟨hname.1, hname.2, fun k start stop inner' hrename => ?_⟩
  rcases t with _ | ⟨kind, start, stop, _ | h⟩
  · cases hrename
  · cases hrename
    obtain ⟨hstart, hstop, -⟩ := hbranch kind start stop none rfl
    exact ⟨hstart, hstop, fun _ => nofun⟩
  · cases hrename
    obtain ⟨hstart, hstop, hself⟩ := hbranch kind start stop (some h) rfl
    refine ⟨hstart, hstop, fun u' hu' hkind => ?_⟩
    rw [Option.getD_some, Grammar.rename_eq_map] at hu'
    obtain ⟨u, hu, rfl⟩ := List.mem_map.mp hu'
    rw [kind_rename] at hkind
    exact hself u hu (hinner h rfl u hu hkind)

/-- **A valid grammar is valid under other names,** if different kinds keep different names and no
name is empty or that of the catch-all kind. -/
theorem Grammar.Valid.rename {g : Grammar} (hg : g.Valid)
    (hinj : Set.InjOn name {kind | g.Declares kind})
    (hnames : ∀ kind, g.Declares kind → name kind ≠ "" ∧ name kind ≠ wordKind) :
    (g.rename name).Valid := by
  induction hg with
  | @intro g accepted inside ih =>
    obtain ⟨-, hfaultless, hdistinct⟩ := ofTypes_eq_ok_iff.mp accepted
    rw [rename_eq_map]
    refine .intro (ofTypes_eq_ok_iff.mpr ⟨rfl, ?_, ?_⟩) ?_
    · intro t' ht'
      obtain ⟨t, ht, rfl⟩ := List.mem_map.mp ht'
      refine TokenType.fault?_rename (hfaultless t ht) (hnames _ (.own ht)) ?_
      exact fun h hinner u hu hkind => hinj (.inside ht hinner (.own hu)) (.own ht) hkind
    · -- kinds stay distinct, for different ones get different names
      have hkinds : (g.map (TokenType.rename name)).map TokenType.kind =
          (g.map TokenType.kind).map name := by
        simp only [List.map_map, Function.comp_def, TokenType.kind_rename]
      rw [hkinds]
      refine hdistinct.map_on fun k hk k' hk' => ?_
      obtain ⟨t, ht, rfl⟩ := List.mem_map.mp hk
      obtain ⟨u, hu, rfl⟩ := List.mem_map.mp hk'
      exact hinj (.own ht) (.own hu)
    · intro t' ht' h' hinner'
      obtain ⟨t, ht, rfl⟩ := List.mem_map.mp ht'
      rw [TokenType.inner?_rename] at hinner'
      obtain ⟨h, hinner, rfl⟩ := Option.map_eq_some_iff.mp hinner'
      -- what occurs in the grammar inside occurs in the whole
      exact ih t ht h hinner (hinj.mono fun kind hkind => .inside ht hinner hkind)
        fun kind hkind => hnames kind (.inside ht hinner hkind)

/-! ### Levels under other names -/

/-- Names for the kinds of tokens: the catch-all kind keeps its own. -/
def keepWord (name : String → String) (kind : String) : String :=
  if kind = wordKind then wordKind else name kind

theorem keepWord_word (name : String → String) : keepWord name wordKind = wordKind := if_pos rfl

theorem keepWord_of_ne {kind : String} (h : kind ≠ wordKind) : keepWord name kind = name kind :=
  if_neg h

/-- The catch-all kind is not confused with the others, if none of them gets its name. -/
theorem keepWord_injOn {kinds : Set String} (hinj : Set.InjOn name kinds)
    (hnames : ∀ kind ∈ kinds, name kind ≠ wordKind) :
    Set.InjOn (keepWord name) (insert wordKind kinds) := by
  intro k hk k' hk' hsame
  -- the catch-all kind may be one of the two, or both
  by_cases hword : k = wordKind
  · by_cases hword' : k' = wordKind
    · rw [hword, hword']
    · rw [hword, keepWord_word, keepWord_of_ne hword'] at hsame
      exact absurd hsame.symm (hnames k' (hk'.resolve_left hword'))
  · by_cases hword' : k' = wordKind
    · rw [hword', keepWord_word, keepWord_of_ne hword] at hsame
      exact absurd hsame (hnames k (hk.resolve_left hword))
    · rw [keepWord_of_ne hword, keepWord_of_ne hword'] at hsame
      exact hinj (hk.resolve_left hword) (hk'.resolve_left hword') hsame

/-- What fits under one name fits under another, if the type and the branch around are not
confused. -/
theorem TokenType.matches?_rename {closing : Option TokenType} {t : TokenType}
    (h : (closing.map (rename name)).any (t.rename name).sameKind = closing.any t.sameKind)
    (coming : List Char) :
    (t.rename name).matches? (closing.map (rename name)) coming = t.matches? closing coming := by
  rcases t with ⟨kind, _ | constraint⟩ | ⟨kind, start, stop, _ | g⟩
  · rfl
  · rfl
  · -- which delimiter a branch is after depends on the branch around only
    rw [matches?, matches?, fit, ← h]
    rfl
  · rw [matches?, matches?, fit, ← h]
    rfl

namespace Level

/-- The level under other names. -/
def rename (name : String → String) (level : Level) : Level :=
  ⟨level.rules.rename name, level.closing.map (TokenType.rename name), level.depth⟩

variable {level level' : Level} {g : Grammar} {t : TokenType}

/-- The level inside a branch goes under other names with the branch. -/
theorem inside_rename (level : Level) (t : TokenType) :
    (level.rename name).inside (t.rename name) = (level.inside t).rename name := by
  simp only [inside, rulesInside, rename, TokenType.inner?_rename]
  cases t.inner? <;> rfl

/-- The first rule that fits is the same, under its other name. -/
theorem first?_rename (h : ∀ t ∈ level.rules,
      (level.closing.map (TokenType.rename name)).any (t.rename name).sameKind =
        level.closing.any t.sameKind) (coming : List Char) :
    (level.rename name).first? coming =
      (level.first? coming).map fun m => ⟨m.type.rename name, m.length⟩ := by
  rw [first?, first?, rename, Grammar.rename_eq_map, List.findSome?_map]
  generalize level.rules = rules at h ⊢
  induction rules with
  | nil => rfl
  | cons t ts ih =>
    -- the first type fits under its other name where it does under its own
    have hts := ih fun u hu => h u (List.mem_cons_of_mem t hu)
    rw [List.findSome?_cons, List.findSome?_cons, Function.comp_apply,
      TokenType.matches?_rename (h t List.mem_cons_self)]
    cases t.matches? level.closing coming with
    | none => exact hts
    | some n => rfl

/-- **A level of a grammar, and the same under other names.** -/
structure Renamed (name : String → String) (g : Grammar) (level level' : Level) : Prop where
  proper : level.Proper
  declared : ∀ kind, level.rules.Declares kind → g.Declares kind
  renamed : level' = level.rename name

namespace Renamed

/-- The level inside a branch, and the same under other names. -/
theorem inside (h : Renamed name g level level') (ht : t ∈ level.rules)
    (hbranch : t.isLeaf = false) :
    Renamed name g (level.inside t) (level'.inside (t.rename name)) := by
  obtain ⟨proper, declared, rfl⟩ := h
  exact ⟨proper.inside ht hbranch, fun kind hkind => declared kind (hkind.of_rulesInside ht),
    inside_rename level t⟩

/-- The level is inside of a type under its own name exactly if it is so under the other. -/
theorem any_sameKind (h : Renamed name g level level')
    (hinj : Set.InjOn name {kind | g.Declares kind}) (ht : t ∈ level.rules) :
    level'.closing.any (t.rename name).sameKind = level.closing.any t.sameKind := by
  obtain ⟨proper, declared, rfl⟩ := h
  rw [rename]
  cases hclosing : level.closing with
  | none => rfl
  | some b =>
    -- both kinds occur in the grammar, where different kinds have different names
    have hb : g.Declares b.kind := declared _ (.own (proper.closing_mem b hclosing))
    have hsame : name t.kind = name b.kind ↔ t.kind = b.kind :=
      hinj.eq_iff (declared _ (.own ht)) hb
    simp only [Option.map_some, Option.any_some, TokenType.sameKind, TokenType.kind_rename,
      beq_eq_beq, hsame]

/-- The catch-all kind is that of no branch, under any names. -/
theorem any_word (h : Renamed name g level level')
    (hnames : ∀ kind, g.Declares kind → name kind ≠ wordKind) :
    level'.closing.any TokenType.word.sameKind = level.closing.any TokenType.word.sameKind := by
  obtain ⟨proper, declared, rfl⟩ := h
  rw [rename]
  cases hclosing : level.closing with
  | none => rfl
  | some b =>
    have hmem := proper.closing_mem b hclosing
    have hword : wordKind ≠ b.kind := (proper.rules.kind_ne_word hmem).symm
    have hword' : wordKind ≠ name b.kind := (hnames _ (declared _ (.own hmem))).symm
    simp only [Option.map_some, Option.any_some, TokenType.sameKind, TokenType.kind_rename]
    exact (beq_false_of_ne hword').trans (beq_false_of_ne hword).symm

/-- **What comes next** is a rule, and then that rule comes next under its other name, or it is of
the catch-all type at both levels. -/
theorem next (h : Renamed name g level level') (hinj : Set.InjOn name {kind | g.Declares kind})
    {coming : List Char} {n : Nat} (hnext : level.next coming = ⟨t, n⟩) :
    t ∈ level.rules ∧ level'.next coming = ⟨t.rename name, n⟩ ∨
      t = .word ∧ level'.next coming = ⟨.word, n⟩ := by
  have hsame : ∀ u ∈ level.rules, level'.closing.any (u.rename name).sameKind =
      level.closing.any u.sameKind := fun u hu => h.any_sameKind hinj hu
  rw [h.renamed] at hsame ⊢
  rw [next_eq_getD] at hnext ⊢
  rw [first?_rename hsame]
  cases hfirst : level.first? coming with
  | none =>
    rw [hfirst] at hnext
    cases hnext
    exact .inr ⟨rfl, rfl⟩
  | some m =>
    rw [hfirst] at hnext
    cases hnext
    exact .inl ⟨mem_of_first? hfirst, rfl⟩

end Renamed

/-- **The levels of a grammar correspond to themselves under other names.** -/
theorem renamed_correspondence (hinj : Set.InjOn name {kind | g.Declares kind})
    (hnames : ∀ kind, g.Declares kind → name kind ≠ wordKind) (text : List Char) :
    Scan.Correspondence (keepWord name) (insert wordKind {kind | g.Declares kind}) text
      (Renamed name g) where
  word_mem := Set.mem_insert _ _
  name_word := keepWord_word name
  injective := keepWord_injOn hinj hnames
  top_iff := by
    intro level level' h
    rw [h.renamed]
    exact Option.map_eq_none_iff
  next := by
    intro level level' h coming _ _ t n hnext
    rcases h.next hinj hnext with ⟨ht, hnext'⟩ | ⟨rfl, hnext'⟩
    · -- a rule, whose kind is not the catch-all one
      have hkind : (t.rename name).kind = keepWord name t.kind := by
        rw [TokenType.kind_rename, keepWord_of_ne (h.proper.rules.kind_ne_word ht)]
      exact ⟨t.rename name, hnext', .inr (h.declared _ (.own ht)), hkind, t.start?_rename,
        t.stop?_rename, h.any_sameKind hinj ht, fun hbranch _ => h.inside ht hbranch⟩
    · -- the catch-all type, which stays what it is
      exact ⟨.word, hnext', Set.mem_insert _ _, (keepWord_word name).symm, rfl, rfl,
        h.any_word hnames, nofun⟩

end Level

namespace Tokenizer

/-- **Kinds are only names.** Let the kinds that occur in a valid grammar be given other names,
different ones to different kinds, and none that is empty or that of the catch-all kind. Then the
grammar is valid again, with all grammars inside it, and the tokens of a text are the same under
these names, the catch-all kind keeping its own. -/
theorem tokenize_rename {g : Grammar} (hg : g.Valid) (name : String → String)
    (hinj : Set.InjOn name {kind | g.Declares kind})
    (hnames : ∀ kind, g.Declares kind → name kind ≠ "" ∧ name kind ≠ wordKind) (text : String)
    (maxDepth : Nat) :
    (g.rename name).Valid ∧
      (⟨g.rename name, maxDepth⟩ : Tokenizer).tokenize text =
        ((⟨g, maxDepth⟩ : Tokenizer).tokenize text).map (Token.rename (keepWord name)) := by
  have hg' : (g.rename name).Valid := hg.rename hinj hnames
  have hword : ∀ kind, g.Declares kind → name kind ≠ wordKind := fun kind h => (hnames kind h).2
  have htop : Level.Renamed name g (.top g) (.top (g.rename name)) :=
    ⟨Level.proper_top hg, fun _ h => h, rfl⟩
  exact ⟨hg', tokenize_corresponding (Level.renamed_correspondence hinj hword text.toList) hg hg'
    htop maxDepth⟩

/-- The names of notes and of bold text are exchanged, and italic text gets a name that any other
kind would get too. -/
theorem tokenize_rename_notes :
    let name : String → String := fun kind =>
      if kind = "note" then "bold" else if kind = "bold" then "note" else "slanted text"
    Notes.grammar.Valid ∧ Set.InjOn name {kind | Notes.grammar.Declares kind} ∧
      (∀ kind, Notes.grammar.Declares kind → name kind ≠ "" ∧ name kind ≠ wordKind) ∧
      (⟨Notes.grammar, 4⟩ : Tokenizer).tokenize "(*(_é)*)_b_" =
        [.branch "note" [.branch "bold" [.branch "note" [.word "_é"]]],
          .branch "italic" [.word "b"]] ∧
      (⟨Notes.grammar.rename name, 4⟩ : Tokenizer).tokenize "(*(_é)*)_b_" =
        [.branch "bold" [.branch "note" [.branch "bold" [.word "_é"]]],
          .branch "slanted text" [.word "b"]] := by
  intro name
  have hkinds : ∀ kind, Notes.grammar.Declares kind → kind ∈ ["note", "bold", "italic"] := by
    intro kind h
    cases h with
    | own mem =>
      simp only [Notes.grammar, List.mem_cons, List.not_mem_nil, or_false] at mem
      rcases mem with rfl | rfl <;> decide
    | inside mem inner within =>
      simp only [Notes.grammar, List.mem_cons, List.not_mem_nil, or_false] at mem
      rcases mem with rfl | rfl <;> cases inner
      -- in a note there is bold text, which has no grammar of its own
      cases within with
      | own mem =>
        obtain rfl := List.mem_singleton.mp mem
        decide
      | inside mem inner within =>
        obtain rfl := List.mem_singleton.mp mem
        cases inner
  -- on the three kinds both conditions can be tested
  have hinj : Set.InjOn name {kind | Notes.grammar.Declares kind} := by
    have hdistinct : ∀ k ∈ ["note", "bold", "italic"], ∀ k' ∈ ["note", "bold", "italic"],
        name k = name k' → k = k' := by decide
    exact fun k hk k' hk' => hdistinct k (hkinds k hk) k' (hkinds k' hk')
  have hnames : ∀ kind, Notes.grammar.Declares kind → name kind ≠ "" ∧ name kind ≠ wordKind := by
    have hproper : ∀ k ∈ ["note", "bold", "italic"], name k ≠ "" ∧ name k ≠ wordKind := by decide
    exact fun kind hkind => hproper kind (hkinds kind hkind)
  have htokens : (⟨Notes.grammar, 4⟩ : Tokenizer).tokenize "(*(_é)*)_b_" =
      [.branch "note" [.branch "bold" [.branch "note" [.word "_é"]]],
        .branch "italic" [.word "b"]] := by
    rw [tokenize_eq_outcome Notes.valid]
    decide +kernel
  obtain ⟨-, hsame⟩ := tokenize_rename Notes.valid name hinj hnames "(*(_é)*)_b_" 4
  refine ⟨Notes.valid, hinj, hnames, htokens, ?_⟩
  rw [hsame, htokens]
  decide +kernel

end Tokenizer
end InlineMarkup
