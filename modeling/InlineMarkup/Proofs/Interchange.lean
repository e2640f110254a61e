import Mathlib.Data.List.Perm.Subperm
import InlineMarkup.Constraint
import InlineMarkup.Proofs.Canonical
import InlineMarkup.Proofs.Correspondence

/-!
# Grammars that read a text alike

Two grammars can differ and still read a text alike. Their own types are the rules of the whole text
and of every branch without a grammar of its own; where a branch has one, both scans go on with the
same rules. So only the lists of own types need to be compared, at every place of the text and
inside of every branch of the two (`Grammar.Interchangeable`).

* `Tokenizer.tokenize_declaring` — a branch that stands first and has no grammar of its own may
  declare the types behind it as its grammar.
* `Tokenizer.tokenize_insert` — a type that never fits by its opening delimiter or its constraint
  may be left out (`TokenType.Unused`).
* `Tokenizer.tokenize_perm` — the order of the types does not count where at most one of them can
  match (`TokenType.CanMatch`).
-/

namespace InlineMarkup

/-! ### Where a type can match -/

namespace TokenType

variable {t : TokenType}

/-- **A type that is unused in a text.** In its opening role it fits nowhere, from no character on
and not at the end. -/
def Unused (t : TokenType) (text : List Char) : Prop :=
  ∀ rest, rest <:+ text → t.matches? none rest = none

/-- **To be unused** is for a branch that its opening delimiter does not occur, and for a type with
a constraint that no length is measured which is a place to cut, and not zero. A type that takes any
character is unused in the empty text. -/
theorem unused_iff {text : List Char} :
    t.Unused text ↔
      match t with
      | .branch _ start _ _ => ¬ start.toList <:+: text
      | .leaf _ (some constraint) => ∀ rest, rest <:+ text → ∀ n,
          constraint.measure rest = some n → n = 0 ∨ Text.isBoundary n rest = false
      | .leaf _ none => text = [] := by
  cases t with
  | branch kind start stop inner =>
    -- a delimiter that occurs is one that some end of the text begins with
    simp only [Unused, Option.eq_none_iff_forall_ne_some, ne_eq, matches?_opening_iff,
      List.infix_iff_prefix_suffix, not_exists, not_and]
    exact ⟨fun h rest hstart hrest => h rest hrest _ hstart rfl,
      fun h rest hrest _ hstart _ => h rest hstart hrest⟩
  | leaf kind constraint =>
    cases constraint with
    | none =>
      constructor
      · -- a text that is not empty has a character for it
        intro h
        cases text with
        | nil => rfl
        | cons c cs => cases h (c :: cs) List.suffix_rfl
      · rintro rfl rest hrest
        obtain rfl := List.suffix_nil.mp hrest
        rfl
    | some constraint =>
      -- end by end, and length by length
      refine forall_congr' fun rest => forall_congr' fun _ => ?_
      rw [Option.eq_none_iff_forall_ne_some]
      refine forall_congr' fun n => (not_congr matches?_constrained_iff).trans ?_
      rw [not_and, not_and_or, not_not, Bool.not_eq_true]

/-- **A type that can match** the coming text, inside of some branch or of none. -/
def CanMatch (t : TokenType) (coming : List Char) : Prop :=
  ∃ closing, t.matches? closing coming ≠ none

/-- **To be able to match** is for a branch that one of its delimiters stands there, and for a type
with a constraint that a length is measured which is a place to cut, and not zero. -/
theorem canMatch_iff {coming : List Char} :
    t.CanMatch coming ↔
      match t with
      | .branch _ start stop _ => start.toList <+: coming ∨ stop.toList <+: coming
      | .leaf _ (some constraint) =>
        ∃ n, constraint.measure coming = some n ∧ n ≠ 0 ∧ Text.isBoundary n coming = true
      | .leaf _ none => coming ≠ [] := by
  simp only [CanMatch, Option.ne_none_iff_exists']
  cases t with
  | branch kind start stop inner =>
    constructor
    · rintro ⟨closing, n, hfit⟩
      obtain ⟨d, rfl, hd, -⟩ := fit_branch_eq_length_iff.mp (matches?_eq_some_iff.mp hfit)
      -- which of the two it is depends on whether the type is inside of itself
      split at hd
      · exact .inr hd
      · exact .inl hd
    · rintro (hstart | hstop)
      · exact ⟨none, _, matches?_opening_iff.mpr ⟨hstart, rfl⟩⟩
      · exact ⟨some (.branch kind start stop inner), _, matches?_own_iff.mpr ⟨hstop, rfl⟩⟩
  | leaf kind constraint =>
    cases constraint with
    | none => cases coming <;> simp [matches?, fit, Fit.length?]
    | some constraint =>
      constructor
      · rintro ⟨_, n, hmatch⟩
        exact ⟨n, matches?_constrained_iff.mp hmatch⟩
      · rintro ⟨n, hmeasured⟩
        exact ⟨none, n, matches?_constrained_iff.mpr hmeasured⟩

end TokenType

/-! ### Interchangeable grammars -/

/-- **Levels of two grammars.** They have the own types of the two as their rules, and are inside of
types that are twins, or they are one and the same level. -/
inductive Level.Interchanged (Twin : TokenType → TokenType → Prop) (g g' : Grammar) :
    Level → Level → Prop where
  | same (level : Level) : Interchanged Twin g g' level level
  | other {closing closing' : Option TokenType} (twins : Option.Rel Twin closing closing')
      (depth : Nat) : Interchanged Twin g g' ⟨g, closing, depth⟩ ⟨g', closing', depth⟩

namespace Grammar

/-- **Grammars that can be interchanged** in front of a text. Twins are types of the one and of the
other that have the same kind and the same delimiters. They have the same grammar for what is inside
of them as well, unless the second one declares what the first one has from around it. Inside of
twins, or of nothing, twins come next. -/
structure Interchangeable (Twin : TokenType → TokenType → Prop) (text : List Char)
    (g g' : Grammar) : Prop where
  kind : ∀ {t t'}, Twin t t' → t'.kind = t.kind
  start : ∀ {t t'}, Twin t t' → t'.start? = t.start?
  stop : ∀ {t t'}, Twin t t' → t'.stop? = t.stop?
  inner : ∀ {t t'}, Twin t t' →
    t' = t ∨ t.inner? = none ∧ ∃ h, t'.inner? = some h ∧ t' :: h = g'
  next : ∀ {closing closing'}, Option.Rel Twin closing closing' → ∀ {coming},
    coming <:+ text → coming ≠ [] → ∀ {depth t n},
      (Level.mk g closing depth).next coming = ⟨t, n⟩ →
        ∃ t', (Level.mk g' closing' depth).next coming = ⟨t', n⟩ ∧ Twin t t'

variable {Twin : TokenType → TokenType → Prop} {text : List Char} {g g' : Grammar}

namespace Interchangeable

/-- Twins are inside of twins alike. -/
theorem any_sameKind (h : Interchangeable Twin text g g') {closing closing' : Option TokenType}
    (hclosing : Option.Rel Twin closing closing') {t t' : TokenType} (htwins : Twin t t') :
    closing'.any t'.sameKind = closing.any t.sameKind := by
  cases hclosing with
  | none => rfl
  | some hb =>
    simp only [Option.any_some, TokenType.sameKind, h.kind hb, h.kind htwins]

/-- The levels inside twins are again levels of the two grammars. -/
theorem inside (h : Interchangeable Twin text g g') {closing closing' : Option TokenType}
    (depth : Nat) {t t' : TokenType} (htwins : Twin t t') :
    Level.Interchanged Twin g g' ((Level.mk g closing depth).inside t)
      ((Level.mk g' closing' depth).inside t') := by
  have hother : Level.Interchanged Twin g g' ⟨g, some t, depth + 1⟩ ⟨g', some t', depth + 1⟩ :=
    .other (.some htwins) (depth + 1)
  simp only [Level.inside, Level.rulesInside]
  -- one type, or one that declares what the other has from around it
  rcases h.inner htwins with rfl | ⟨hnone, g'', hsome, rfl⟩
  · cases t'.inner? with
    | none => exact hother
    | some _ => exact .same _
  · rw [hnone, hsome]
    exact hother

/-- **The levels of interchangeable grammars correspond,** under the same names. -/
theorem correspondence (h : Interchangeable Twin text g g') :
    Scan.Correspondence id Set.univ text (Level.Interchanged Twin g g') where
  word_mem := trivial
  name_word := rfl
  injective := Function.injective_id.injOn
  top_iff := by
    intro level level' hlevels
    cases hlevels with
    | same => exact Iff.rfl
    | other twins depth => cases twins <;> simp
  next := by
    intro level level' hlevels coming hsuffix hne t n hnext
    cases hlevels with
    | same =>
      -- at one and the same level nothing differs
      exact ⟨t, hnext, trivial, rfl, rfl, rfl, rfl, fun _ _ => .same _⟩
    | other twins depth =>
      obtain ⟨t', hnext', htwins⟩ := h.next twins hsuffix hne hnext
      exact ⟨t', hnext', trivial, h.kind htwins, h.start htwins, h.stop htwins,
        h.any_sameKind twins htwins, fun _ _ => h.inside depth htwins⟩

end Interchangeable

/-- An accepted list of types is a valid grammar if those of them that have a grammar of their own
are taken from one. -/
theorem Valid.of_accepted (h : g'.Valid) (accepted : ofTypes g = .ok g)
    (hmem : ∀ t ∈ g, t ∈ g' ∨ t.inner? = none) : g.Valid := by
  refine .intro accepted fun t ht g'' hinner => ?_
  rcases hmem t ht with ht' | hnone
  · exact h.isRuleList.valid_inside t ht' g'' hinner
  · rw [hnone] at hinner
    cases hinner

/-- A part of a valid grammar is a valid grammar, in any order. -/
theorem Valid.of_subperm (h : g'.Valid) (hpart : List.Subperm g g') : g.Valid := by
  have hrules := h.isRuleList
  -- distinct kinds stay distinct in any order and in any part of the list
  obtain ⟨g'', hperm, hsublist⟩ := id hpart
  have hdistinct : (g.map TokenType.kind).Nodup :=
    (hperm.map _).nodup_iff.mp ((hsublist.map _).nodup hrules.distinct)
  refine h.of_accepted (ofTypes_eq_ok_iff.mpr ⟨rfl, ?_, hdistinct⟩) ?_
  · exact fun t ht => hrules.faultless t (hpart.subset ht)
  · exact fun t ht => .inl (hpart.subset ht)

end Grammar

namespace Tokenizer

/-- Interchangeable grammars give the same tokens. -/
theorem tokenize_interchanged {Twin : TokenType → TokenType → Prop} {g g' : Grammar} {text : String}
    (h : Grammar.Interchangeable Twin text.toList g g') (hg : g.Valid) (hg' : g'.Valid)
    (maxDepth : Nat) :
    (⟨g', maxDepth⟩ : Tokenizer).tokenize text = (⟨g, maxDepth⟩ : Tokenizer).tokenize text := by
  rw [tokenize_corresponding h.correspondence hg hg' (.other .none 0), Token.map_rename_id]

end Tokenizer

/-! ### Interiors declared and inherited -/

section Declaring

variable {kind start stop : String} {rest : Grammar}

/-- **A branch that declares the types behind it** reads its interior with the same rules as before:
itself, and these types. -/
theorem Grammar.interchangeable_declaring (text : List Char) :
    Grammar.Interchangeable
      (fun t t' => t' = t ∨ t = .delimited kind start stop ∧
        t' = (TokenType.delimited kind start stop).withGrammar rest)
      text (.delimited kind start stop :: rest)
      ((TokenType.delimited kind start stop).withGrammar rest :: rest) where
  kind := by rintro t t' (rfl | ⟨rfl, rfl⟩) <;> rfl
  start := by rintro t t' (rfl | ⟨rfl, rfl⟩) <;> rfl
  stop := by rintro t t' (rfl | ⟨rfl, rfl⟩) <;> rfl
  inner := by
    rintro t t' (rfl | ⟨rfl, rfl⟩)
    · exact .inl rfl
    · exact .inr ⟨rfl, rest, rfl, rfl⟩
  next := by
    intro closing closing' hclosing coming _ _ depth t n hnext
    -- the branches around have the same kind, so what fits under one of them fits under the other
    have hany : ∀ u : TokenType, closing'.any u.sameKind = closing.any u.sameKind := by
      intro u
      rcases hclosing with ⟨rfl | ⟨rfl, rfl⟩⟩ | _ <;> rfl
    have hfits : ∀ u : TokenType, u.matches? closing' coming = u.matches? closing coming :=
      fun u => TokenType.matches?_congr (hany u) coming
    have hfirst : ((TokenType.delimited kind start stop).withGrammar rest).matches? closing coming =
        (TokenType.delimited kind start stop).matches? closing coming := rfl
    simp only [Level.next, Match.first?_snd, List.findSome?_cons, hfits, hfirst] at hnext ⊢
    -- if the branch itself fits it comes next in both, with its own grammar or without
    cases hown : (TokenType.delimited kind start stop).matches? closing coming with
    | none =>
      rw [hown] at hnext
      exact ⟨t, hnext, .inl rfl⟩
    | some m =>
      rw [hown] at hnext
      cases hnext
      exact ⟨_, rfl, .inr ⟨rfl, rfl⟩⟩

/-- A branch may declare the types that stand behind it in a valid grammar. -/
theorem Grammar.valid_declaring (hg : Grammar.Valid (.delimited kind start stop :: rest)) :
    Grammar.Valid ((TokenType.delimited kind start stop).withGrammar rest :: rest) := by
  have hrest : Grammar.Valid rest := hg.of_subperm (List.sublist_cons_self _ rest).subperm
  obtain ⟨accepted, inside⟩ := hg
  obtain ⟨-, hfaultless, hdistinct⟩ := Grammar.ofTypes_eq_ok_iff.mp accepted
  obtain ⟨hnew, -⟩ := List.nodup_cons.mp hdistinct
  -- what was to be distinct in one list is what a branch may not declare
  have hfault : ((TokenType.delimited kind start stop).withGrammar rest).fault? = none := by
    obtain ⟨hempty, hword, hmarks⟩ :=
      TokenType.fault?_eq_none_iff.mp (hfaultless _ List.mem_cons_self)
    refine TokenType.fault?_eq_none_iff.mpr ⟨hempty, hword, ?_⟩
    rintro _ _ _ _ ⟨⟩
    obtain ⟨hstart, hstop, -⟩ := hmarks kind start stop none rfl
    exact ⟨hstart, hstop, fun u hu hkind => hnew (List.mem_map.mpr ⟨u, hu, hkind⟩)⟩
  refine .intro (Grammar.ofTypes_eq_ok_iff.mpr ⟨rfl, ?_, hdistinct⟩) ?_
  · -- every type is faultless, the branch because of the above
    intro t ht
    rcases List.mem_cons.mp ht with rfl | ht
    · exact hfault
    · exact hfaultless t (List.mem_cons_of_mem _ ht)
  · -- and every grammar inside is valid, that of the branch being a part of the whole one
    intro t ht h hinner
    rcases List.mem_cons.mp ht with rfl | ht
    · cases hinner
      exact hrest
    · exact inside t (List.mem_cons_of_mem _ ht) h hinner

end Declaring

namespace Tokenizer

/-- **Declared and inherited interiors agree.** In a valid grammar let a branch without a grammar of
its own come first. Then it may declare the types behind it as its own grammar, and every text has
the same tokens. -/
theorem tokenize_declaring {kind start stop : String} {rest : Grammar}
    (hg : Grammar.Valid (.delimited kind start stop :: rest)) (text : String) (maxDepth : Nat) :
    let declaring : Grammar := (TokenType.delimited kind start stop).withGrammar rest :: rest
    declaring.Valid ∧
      (⟨declaring, maxDepth⟩ : Tokenizer).tokenize text =
        (⟨.delimited kind start stop :: rest, maxDepth⟩ : Tokenizer).tokenize text := by
  intro declaring
  have hdeclaring : declaring.Valid := Grammar.valid_declaring hg
  have hsame : Grammar.Interchangeable _ text.toList (.delimited kind start stop :: rest)
      declaring := Grammar.interchangeable_declaring text.toList
  exact ⟨hdeclaring, tokenize_interchanged hsame hg hdeclaring maxDepth⟩

/-- Bold text with a note and with italic text in it, and in both of these bold text again, by the
grammar of the note and by that of the bold text around. -/
theorem tokenize_declaring_notes :
    let inheriting : Grammar := Notes.bold :: Notes.grammar
    let declaring : Grammar := Notes.bold.withGrammar Notes.grammar :: Notes.grammar
    let forest : List Token :=
      [.branch "bold" [.branch "note" [.branch "bold" [.word "é"]],
        .branch "italic" [.branch "bold" [.word "b"]]]]
    inheriting.Valid ∧ declaring.Valid ∧
      (⟨inheriting, 4⟩ : Tokenizer).tokenize "*(*é*)_*b*_*" = forest ∧
      (⟨declaring, 4⟩ : Tokenizer).tokenize "*(*é*)_*b*_*" = forest := by
  intro inheriting declaring forest
  have hg : inheriting.Valid := by
    refine Notes.valid.of_accepted rfl fun t ht => ?_
    rcases List.mem_cons.mp ht with rfl | ht
    · exact .inr rfl
    · exact .inl ht
  have htokens : (⟨inheriting, 4⟩ : Tokenizer).tokenize "*(*é*)_*b*_*" = forest := by
    rw [tokenize_eq_outcome hg]
    decide +kernel
  obtain ⟨hdeclaring, hsame⟩ := tokenize_declaring hg "*(*é*)_*b*_*" 4
  exact ⟨hg, hdeclaring, htokens, hsame.trans htokens⟩

end Tokenizer

/-! ### Types that are not used -/

/-- **An unused type** comes next nowhere: it does not open, and so nothing is inside of it. -/
theorem Grammar.interchangeable_insert {front back : Grammar} {u : TokenType} {text : List Char}
    (hg : Grammar.IsRuleList (front ++ u :: back)) (hunused : u.Unused text) :
    Grammar.Interchangeable (fun t t' => t' = t ∧ t.kind ≠ u.kind) text (front ++ back)
      (front ++ u :: back) where
  kind := by rintro t t' ⟨rfl, -⟩; rfl
  start := by rintro t t' ⟨rfl, -⟩; rfl
  stop := by rintro t t' ⟨rfl, -⟩; rfl
  inner := by rintro t t' ⟨rfl, -⟩; exact .inl rfl
  next := by
    intro closing closing' hclosing coming hsuffix _ depth t n hnext
    -- the branch around is another one, so the type would have to open
    have hany : closing'.any u.sameKind = Option.none.any u.sameKind := by
      rcases hclosing with ⟨rfl, hkind⟩ | _
      · exact beq_false_of_ne hkind.symm
      · rfl
    have hnone : u.matches? closing' coming = none := by
      rw [TokenType.matches?_congr hany, hunused coming hsuffix]
    obtain rfl : closing' = closing := by
      rcases hclosing with ⟨rfl, -⟩ | _ <;> rfl
    -- and as it does not fit, the search passes it by
    have hsame : (Level.mk (front ++ u :: back) closing' depth).next coming = ⟨t, n⟩ := by
      rw [← hnext]
      simp only [Level.next, Match.first?_snd, List.findSome?_append, List.findSome?_cons, hnone,
        Option.map_none]
    refine ⟨t, hsame, rfl, ?_⟩
    rcases Level.next_cases hnext with ⟨hmem, -⟩ | ⟨rfl, -⟩
    · -- what comes next is another type, hence of another kind
      have hdistinct := hg.distinct
      rw [List.map_append, List.map_cons, List.nodup_middle, ← List.map_append] at hdistinct
      intro hkind
      exact (List.nodup_cons.mp hdistinct).1 (List.mem_map.mpr ⟨t, hmem, hkind⟩)
    · -- or the catch-all type, whose kind is reserved
      exact (hg.kind_ne_word (List.mem_append_right front List.mem_cons_self)).symm

namespace Tokenizer

/-- **Unused types are invisible.** A type of a valid grammar that is unused in a text may be left
out, even if its kind is declared again by a grammar inside; without it the grammar is valid as
well. -/
theorem tokenize_insert {front back : Grammar} {u : TokenType}
    (hg : Grammar.Valid (front ++ u :: back)) (text : String) (hunused : u.Unused text.toList)
    (maxDepth : Nat) :
    Grammar.Valid (front ++ back) ∧
      (⟨front ++ u :: back, maxDepth⟩ : Tokenizer).tokenize text =
        (⟨front ++ back, maxDepth⟩ : Tokenizer).tokenize text := by
  have hpart : List.Subperm (front ++ back) (front ++ u :: back) :=
    ((List.sublist_cons_self u back).append_left front).subperm
  have hrest := hg.of_subperm hpart
  have hsame := Grammar.interchangeable_insert hg.isRuleList hunused
  exact ⟨hrest, tokenize_interchanged hsame hrest hg maxDepth⟩

/-- Bold text is marked by a tilde, which does not occur, and in a note by a star. -/
theorem tokenize_insert_notes :
    let bold : TokenType := .surround "bold" "~"
    let forest : List Token :=
      [.branch "note" [.branch "bold" [.word "é"]], .branch "italic" [.word "*b*"]]
    Grammar.Valid ([Notes.note] ++ bold :: [Notes.italic]) ∧ bold.Unused "(*é*)_*b*_".toList ∧
      (⟨Notes.grammar, 4⟩ : Tokenizer).tokenize "(*é*)_*b*_" = forest ∧
      (⟨[Notes.note] ++ bold :: [Notes.italic], 4⟩ : Tokenizer).tokenize "(*é*)_*b*_" =
        forest := by
  intro bold forest
  have hg : Grammar.Valid ([Notes.note] ++ bold :: [Notes.italic]) := by
    refine Notes.valid.of_accepted rfl fun t ht => ?_
    simp only [List.mem_append, List.mem_cons, List.not_mem_nil, or_false] at ht
    rcases ht with rfl | rfl | rfl
    · exact .inl (.head _)
    · exact .inr rfl
    · exact .inr rfl
  have hunused : bold.Unused "(*é*)_*b*_".toList :=
    TokenType.unused_iff.mpr (show ¬ "~".toList <:+: "(*é*)_*b*_".toList by decide +kernel)
  have htokens : (⟨Notes.grammar, 4⟩ : Tokenizer).tokenize "(*é*)_*b*_" = forest := by
    rw [tokenize_eq_outcome Notes.valid]
    decide +kernel
  obtain ⟨-, hsame⟩ := tokenize_insert hg "(*é*)_*b*_" hunused 4
  exact ⟨hg, hunused, htokens, hsame.trans htokens⟩

end Tokenizer

/-! ### The order of the types -/

namespace Grammar

/-- **An exclusive grammar** for a text: at every place at most one of its own types can match. -/
def Exclusive (g : Grammar) (text : List Char) : Prop :=
  ∀ rest, rest <:+ text → ∀ t ∈ g, ∀ u ∈ g, t.CanMatch rest → u.CanMatch rest → t = u

/-- **In an exclusive grammar the order does not count:** what can match comes next. -/
theorem interchangeable_perm {g g' : Grammar} {text : List Char} (hperm : g'.Perm g)
    (hexclusive : g.Exclusive text) : Interchangeable (fun t t' => t' = t) text g g' where
  kind := by rintro t t' rfl; rfl
  start := by rintro t t' rfl; rfl
  stop := by rintro t t' rfl; rfl
  inner := by rintro t t' rfl; exact .inl rfl
  next := by
    intro closing closing' hclosing coming hsuffix _ depth t n hnext
    obtain rfl : closing' = closing := by
      rcases hclosing with ⟨rfl⟩ | _ <;> rfl
    refine ⟨t, ?_, rfl⟩
    rw [← hnext]
    by_cases hany : ∃ u ∈ g, u.matches? closing' coming ≠ none
    · -- one type fits, alone, and is found wherever it stands
      obtain ⟨u, hu, hfits⟩ := hany
      obtain ⟨m, hm⟩ := Option.ne_none_iff_exists'.mp hfits
      have hother : ∀ v ∈ g, v.matches? closing' coming ≠ none → v = u := fun v hv hfits' =>
        hexclusive coming hsuffix v hv u hu ⟨closing', hfits'⟩ ⟨closing', hfits⟩
      have hfirst : (Level.mk g closing' depth).next coming = ⟨u, m⟩ :=
        Level.next_eq_of_unique hu hm hother
      rw [hfirst]
      exact Level.next_eq_of_unique (hperm.mem_iff.mpr hu) hm
        fun v hv => hother v (hperm.mem_iff.mp hv)
    · -- no type fits, in either order
      have hnone : ∀ u ∈ g, u.matches? closing' coming = none := fun u hu =>
        not_not.mp fun hfits => hany ⟨u, hu, hfits⟩
      have hword : (Level.mk g closing' depth).next coming = _ := Level.next_eq_word hnone
      rw [hword]
      exact Level.next_eq_word fun u hu => hnone u (hperm.mem_iff.mp hu)

end Grammar

namespace Tokenizer

/-- **Order is only a tie-break.** If at every place of the text at most one own type of a valid
grammar can match, then these types give the same tokens in any other order, in which they are a
valid grammar as well. -/
theorem tokenize_perm {g g' : Grammar} (hg : g.Valid) (hperm : g'.Perm g) (text : String)
    (hexclusive : g.Exclusive text.toList) (maxDepth : Nat) :
    g'.Valid ∧
      (⟨g', maxDepth⟩ : Tokenizer).tokenize text = (⟨g, maxDepth⟩ : Tokenizer).tokenize text := by
  have hg' : g'.Valid := hg.of_subperm hperm.subperm
  exact ⟨hg', tokenize_interchanged (Grammar.interchangeable_perm hperm hexclusive) hg hg' maxDepth⟩

/-- Notes, mentions and italic text, in two orders. -/
theorem tokenize_perm_notes :
    let mention : TokenType := .constrained "mention" Constraint.mention
    let g : Grammar := [Notes.note, mention, Notes.italic]
    let g' : Grammar := [Notes.italic, Notes.note, mention]
    let forest : List Token :=
      [.branch "italic" [.branch "note" [.branch "bold" [.word "é"]], .leaf "mention" "@ab"]]
    g.Valid ∧ g'.Perm g ∧ g.Exclusive "_(*é*)@ab_".toList ∧
      (⟨g, 4⟩ : Tokenizer).tokenize "_(*é*)@ab_" = forest ∧
      (⟨g', 4⟩ : Tokenizer).tokenize "_(*é*)@ab_" = forest := by
  intro mention g g' forest
  have hg : g.Valid := by
    refine Notes.valid.of_accepted rfl fun t ht => ?_
    simp only [g, List.mem_cons, List.not_mem_nil, or_false] at ht
    rcases ht with rfl | rfl | rfl
    · exact .inl (.head _)
    · exact .inr rfl
    · exact .inr rfl
  have hperm : g'.Perm g :=
    (List.Perm.swap Notes.note Notes.italic [mention]).trans
      ((List.Perm.swap mention Notes.italic []).cons Notes.note)
  have hexclusive : g.Exclusive "_(*é*)@ab_".toList := by
    intro rest _ t ht u hu htmatch humatch
    -- what can match is told apart by the first character
    have hnote : Notes.note.CanMatch rest → rest.head? = some '(' ∨ rest.head? = some ')' := by
      intro h
      rcases TokenType.canMatch_iff.mp h with ⟨tail, rfl⟩ | ⟨tail, rfl⟩
      · exact .inl rfl
      · exact .inr rfl
    have hmention : mention.CanMatch rest → rest.head? = some '@' := by
      intro h
      obtain ⟨n, hmeasured, -⟩ := TokenType.canMatch_iff.mp h
      simp only [Constraint.mention] at hmeasured
      -- a mention begins with an at sign
      split at hmeasured
      · rfl
      · cases hmeasured
    have hitalic : Notes.italic.CanMatch rest → rest.head? = some '_' := by
      intro h
      rcases TokenType.canMatch_iff.mp h with ⟨tail, rfl⟩ | ⟨tail, rfl⟩ <;> rfl
    simp only [g, List.mem_cons, List.not_mem_nil, or_false] at ht hu
    rcases ht with rfl | rfl | rfl <;> rcases hu with rfl | rfl | rfl <;> grind
  have htokens : (⟨g, 4⟩ : Tokenizer).tokenize "_(*é*)@ab_" = forest := by
    rw [tokenize_eq_outcome hg]
    decide +kernel
  obtain ⟨-, hsame⟩ := tokenize_perm hg hperm "_(*é*)@ab_" hexclusive 4
  exact ⟨hg, hperm, hexclusive, htokens, hsame.trans htokens⟩

end Tokenizer
end InlineMarkup
