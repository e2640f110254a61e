import InlineMarkup.Proofs.Tokenizing
import InlineMarkup.Proofs.UnderWay
import InlineMarkup.Proofs.Writing

/-!
# Writing and reading back

Not every forest is the result of reading a text: two words in a row would have been one, and a
bold branch directly inside a bold branch would have been its end. A forest is `Canonical` at a
level if it has no such defect and its words are free of marks. If moreover no mark is ambiguous,
then writing a canonical forest and reading the text gives the forest back, whatever nesting is
allowed beyond that of the forest.

* `Grammar.Usable` — the rule lists that a scan with a grammar can come to.
* `Grammar.Unambiguous` — branches with single marks only, and no mark shared between two of them.
* `Canonical` — the forests that are read back, `Token.nesting` being the room which they need.
* `Spells` — what is shown of a canonical forest: its text, and a reading of that text in front of
  any tail at which the level stops. There is one lemma for each way to build a canonical forest.
-/

namespace InlineMarkup

/-! ### Marks -/

namespace TokenType

/-- The characters of the delimiters of a type. -/
def marks : TokenType → List Char
  | leaf .. => []
  | branch _ start stop _ => start.toList ++ stop.toList

/-- **Types apart.** No character marks both of them. -/
def Apart (t u : TokenType) : Prop := ∀ c ∈ t.marks, c ∉ u.marks

instance (t u : TokenType) : Decidable (t.Apart u) := List.decidableBAll _ _

/-- **A branch between single characters.** -/
def isSingle : TokenType → Bool
  | leaf .. => false
  | branch _ start stop _ => start.toList.length == 1 && stop.toList.length == 1

theorem isSingle_iff {t : TokenType} :
    t.isSingle = true ↔
      ∃ kind a b inner, t = .branch kind (String.singleton a) (String.singleton b) inner := by
  constructor
  · intro h
    cases t with
    | leaf kind constraint => cases h
    | branch kind start stop inner =>
      rw [isSingle, Bool.and_eq_true, beq_iff_eq, beq_iff_eq] at h
      obtain ⟨a, ha⟩ := List.length_eq_one_iff.mp h.1
      obtain ⟨b, hb⟩ := List.length_eq_one_iff.mp h.2
      refine ⟨kind, a, b, inner, ?_⟩
      rw [String.singleton_eq_ofList, String.singleton_eq_ofList, ← ha, ← hb, String.ofList_toList,
        String.ofList_toList]
  · rintro ⟨kind, a, b, inner, rfl⟩
    rw [isSingle, String.toList_singleton, String.toList_singleton]
    rfl

end TokenType

namespace Grammar

/-- **The rule lists that a scan can come to:** the grammar of the whole text, and a branch of such
a rule list followed by its own grammar. -/
inductive Usable (g : Grammar) : Grammar → Prop where
  | top : Usable g g
  | inside {rules h : Grammar} {t : TokenType} (around : Usable g rules) (mem : t ∈ rules)
      (inner : t.inner? = some h) : Usable g (t :: h)

theorem Usable.trans {g rules rules' : Grammar} (h : g.Usable rules) (h' : rules.Usable rules') :
    g.Usable rules' := by
  induction h' with
  | top => exact h
  | inside _ mem inner ih => exact ih.inside mem inner

/-- The rules inside a branch can be come to if those around it can. -/
theorem Usable.level_inside {g : Grammar} {level : Level} {t : TokenType}
    (h : g.Usable level.rules) (ht : t ∈ level.rules) : g.Usable (level.inside t).rules := by
  rw [Level.inside, Level.rulesInside]
  cases hinner : t.inner? with
  | none => exact h
  | some inner => exact h.inside ht hinner

/-- **Unambiguous rules.** All are branches between single characters, and no character marks two
branches of different kinds. -/
structure Unambiguous (rules : Grammar) : Prop where
  single : ∀ t ∈ rules, t.isSingle = true
  apart : ∀ t ∈ rules, ∀ u ∈ rules, t.kind ≠ u.kind → t.Apart u

instance (rules : Grammar) : Decidable rules.Unambiguous :=
  decidable_of_iff
    ((∀ t ∈ rules, t.isSingle = true) ∧
      ∀ t ∈ rules, ∀ u ∈ rules, t.kind ≠ u.kind → t.Apart u)
    ⟨fun h => ⟨h.1, h.2⟩, fun h => ⟨h.single, h.apart⟩⟩

/-- **A text without marks.** None of its characters marks a rule. -/
def Spares (rules : Grammar) (text : String) : Prop :=
  ∀ c ∈ text.toList, ∀ t ∈ rules, c ∉ t.marks

instance (rules : Grammar) (text : String) : Decidable (rules.Spares text) :=
  List.decidableBAll _ _

end Grammar

/-! ### Branches fit where their marks stand -/

section Branches

variable {level : Level} {c : Char} {cs : List Char}

/-- A branch fits only where a mark of it stands. -/
theorem Level.Proper.mem_marks (h : level.Proper) {t : TokenType} (ht : t ∈ level.rules)
    (hbranch : t.isLeaf = false) {n : Nat}
    (hfit : t.matches? level.closing (c :: cs) = some n) : c ∈ t.marks := by
  cases t with
  | leaf kind constraint => cases hbranch
  | branch kind start stop inner =>
    obtain ⟨hstartne, hstopne⟩ := h.rules.marks_ne_empty ht
    have hlength := TokenType.matches?_eq_some_iff.mp hfit
    obtain ⟨d, hd, hstarts, -⟩ := TokenType.fit_branch_eq_length_iff.mp hlength
    -- a delimiter that stands there begins with the character
    have hfirst : ∀ d : String, d ≠ "" → d.toList <+: c :: cs → c ∈ d.toList := by
      intro d hne hstarts
      obtain ⟨a, as, has⟩ : ∃ a as, d.toList = a :: as :=
        List.exists_cons_of_ne_nil (mt String.toList_eq_nil_iff.mp hne)
      rw [has] at hstarts ⊢
      rw [(List.cons_prefix_cons.mp hstarts).1]
      exact List.mem_cons_self
    split at hd
    · -- inside of itself the branch fits by its closing delimiter
      subst hd
      exact List.mem_append_right _ (hfirst d hstopne hstarts)
    · -- and otherwise by its opening one
      subst hd
      exact List.mem_append_left _ (hfirst d hstartne hstarts)

/-- **A text without marks is plain** where all rules are branches. -/
theorem Scan.plain_of_free {limit : Nat} (h : level.Proper)
    (hbranches : ∀ t ∈ level.rules, t.isLeaf = false) {piece behind : List Char}
    (hfree : ∀ c ∈ piece, ∀ t ∈ level.rules, c ∉ t.marks) : Plain limit level piece behind := by
  rintro xs c ys rfl
  apply Decided.unmatched h
  intro t ht
  apply Option.eq_none_iff_forall_ne_some.mpr
  intro n hfit
  exact hfree c (List.mem_append_right xs List.mem_cons_self) t ht
    (h.mem_marks ht (hbranches t ht) hfit)

end Branches

/-! ### What comes next is certain -/

namespace Level

/-- **A level whose marks are certain:** it is proper, and all rule lists that can be come to from
it are unambiguous. -/
structure Certain (level : Level) : Prop where
  proper : level.Proper
  unambiguous : ∀ rules, level.rules.Usable rules → rules.Unambiguous

variable {level : Level} {t : TokenType} {c : Char} {cs : List Char}

/-- The level inside a branch is certain again. -/
theorem Certain.inside (h : level.Certain) (ht : t ∈ level.rules) (hbranch : t.isLeaf = false) :
    (level.inside t).Certain := by
  refine ⟨h.proper.inside ht hbranch, ?_⟩
  intro rules hrules
  have htop : level.rules.Usable level.rules := .top
  exact h.unambiguous rules ((htop.level_inside ht).trans hrules)

/-- All rules of a certain level are branches. -/
theorem Certain.isLeaf_eq_false (h : level.Certain) (ht : t ∈ level.rules) : t.isLeaf = false := by
  obtain ⟨kind, a, b, inner, rfl⟩ :=
    TokenType.isSingle_iff.mp ((h.unambiguous _ .top).single t ht)
  rfl

/-- A rule fits only where a mark of it stands. -/
theorem Certain.mem_marks (h : level.Certain) (ht : t ∈ level.rules) {n : Nat}
    (hfit : t.matches? level.closing (c :: cs) = some n) : c ∈ t.marks :=
  h.proper.mem_marks ht (h.isLeaf_eq_false ht) hfit

/-- **A rule that fits comes next:** no other rule fits at the same mark. -/
theorem Certain.next_eq (h : level.Certain) (ht : t ∈ level.rules) {n : Nat}
    (hfit : t.matches? level.closing (c :: cs) = some n) : level.next (c :: cs) = ⟨t, n⟩ := by
  refine next_eq_of_unique ht hfit ?_
  intro u hu hmatches
  obtain ⟨m, hm⟩ := Option.ne_none_iff_exists'.mp hmatches
  -- two rules that fit would share the mark
  by_contra hne
  have hkind : u.kind ≠ t.kind := fun hk => hne (h.proper.rules.eq_of_kind_eq hu ht hk)
  exact (h.unambiguous _ .top).apart u hu t ht hkind c (h.mem_marks hu hm) (h.mem_marks ht hfit)

/-- **The closing delimiter of the level's own branch comes next** where it stands. -/
theorem Certain.next_stop (h : level.Certain) {kind start stop : String} {inner : Option Grammar}
    (hclosing : level.closing = some (.branch kind start stop inner))
    (hstop : stop.toList <+: c :: cs) :
    level.next (c :: cs) = ⟨.branch kind start stop inner, stop.utf8ByteSize⟩ := by
  apply h.next_eq (h.proper.closing_mem _ hclosing)
  rw [hclosing]
  exact TokenType.matches?_own_iff.mpr ⟨hstop, rfl⟩

/-- **The opening delimiter of another branch comes next** where it stands. -/
theorem Certain.next_start (h : level.Certain) {kind start stop : String} {inner : Option Grammar}
    (ht : .branch kind start stop inner ∈ level.rules)
    (hforeign : level.closing.any (TokenType.branch kind start stop inner).sameKind = false)
    (hstart : start.toList <+: c :: cs) :
    level.next (c :: cs) = ⟨.branch kind start stop inner, start.utf8ByteSize⟩ := by
  refine h.next_eq ht ?_
  rw [TokenType.matches?_eq_some_iff, TokenType.fit_branch_eq_length_iff]
  exact ⟨start, by rw [hforeign]; rfl, hstart, rfl⟩

end Level

/-! ### Canonical forests -/

/-- **Canonical forests of a level.** Words are not empty, hold no mark of the level's rules and do
not follow each other. Branches are of kinds in the rules, except that of the branch directly around
them, and what they hold is canonical inside them and not empty. -/
inductive Canonical : Level → List Token → Prop where
  | nil {level : Level} : Canonical level []
  | word {level : Level} {text : String} {ts : List Token} (filled : text ≠ "")
      (free : level.rules.Spares text)
      (single : ∀ t, ts.head? = some t → t.isLeaf = false)
      (onward : Canonical level ts) : Canonical level (.word text :: ts)
  | branch {level : Level} {t : TokenType} {children ts : List Token} (mem : t ∈ level.rules)
      (foreign : ∀ b, level.closing = some b → t.kind ≠ b.kind) (filled : children ≠ [])
      (within : Canonical (level.inside t) children)
      (onward : Canonical level ts) : Canonical level (.branch t.kind children :: ts)

namespace Token

mutual

/-- **The nesting of a token:** how many branches are inside each other in it. -/
def nesting : Token → Nat
  | leaf .. => 0
  | branch _ ts => nestingOfList ts + 1

/-- The nesting of a forest. -/
def nestingOfList : List Token → Nat
  | [] => 0
  | t :: ts => max (nesting t) (nestingOfList ts)

end

end Token

/-! ### Texts of canonical forests -/

namespace Scan

/-- **What may be under way in front of a forest:** nothing, or a word if the forest does not begin
with one. -/
def Leaf.Before (pending : Option Leaf) (ts : List Token) : Prop :=
  ∀ l, pending = some l → l.kind = wordKind ∧ ∀ t, ts.head? = some t → t.isLeaf = false

/-- A branch is of another kind than what may be under way. -/
theorem Leaf.Before.fresh {pending : Option Leaf} {ts : List Token} (h : Leaf.Before pending ts)
    {kind : String} (hkind : kind ≠ wordKind) :
    (pending.any fun l => l.kind == kind) = false := by
  cases pending with
  | none => rfl
  | some l =>
    have hword : l.kind = wordKind := (h l rfl).1
    simpa [hword] using hkind.symm

/-- **A text spells a forest at a level.** Writers that know the rules write the forest as this
text; and a scan reads the forest from it in front of every tail at which the level stops. -/
structure Spells (limit : Nat) (level : Level) (ts : List Token) (text : String) : Prop where
  written : ∀ w : Writer, w.Knows level.rules → w.writeAll ts = w.put text
  reads : ∀ pending tail, Leaf.Before pending ts → level.Stops tail →
    Reads limit level pending (text.toList ++ tail) (Leaf.finish pending ++ ts) tail

namespace Spells

variable {limit : Nat} {level : Level} {ts : List Token}

/-- The empty forest is spelled by the empty text: the level stops at once. -/
theorem nil (hlevel : level.Certain) : Spells limit level [] "" := by
  refine ⟨?_, ?_⟩
  · intro w _
    rw [Writer.writeAll, Writer.put_empty]
  · intro pending tail hpending hstops
    rw [List.append_nil]
    rcases hstops with ⟨htop, rfl⟩ | ⟨kind, start, stop, inner, hclosing, hstop⟩
    · -- the whole text ends here
      exact .finished htop
    have hmem := hlevel.proper.closing_mem _ hclosing
    have hstopne := (hlevel.proper.rules.marks_ne_empty hmem).2
    cases tail with
    | nil => simp [hstopne] at hstop
    | cons c cs =>
      -- only a word can be under way, and the branch that ends is not of that kind
      have hfresh := hpending.fresh (hlevel.proper.rules.kind_ne_word hmem)
      refine .ended (.ended (hlevel.next_stop hclosing hstop) hfresh ?_)
      rw [hclosing]
      exact TokenType.sameKind_iff.mpr rfl

/-- **A word in front of a spelled forest.** It is plain, so it is under way when the forest
comes. -/
theorem word (hlevel : level.Certain) {text later : String} (filled : text ≠ "")
    (free : level.rules.Spares text)
    (single : ∀ t, ts.head? = some t → t.isLeaf = false) (h : Spells limit level ts later) :
    Spells limit level (.word text :: ts) (text ++ later) := by
  refine ⟨?_, ?_⟩
  · intro w hknows
    rw [Writer.writeAll_cons, Token.word, Writer.write, h.written _ (hknows.put text),
      Writer.put_put]
  · intro pending tail hpending hstops
    -- nothing else can be under way in front of a word
    obtain rfl : pending = none := by
      cases pending with
      | none => rfl
      | some l =>
        have hleaf : true = false := (hpending l rfl).2 _ rfl
        cases hleaf
    have hword : Leaf.Before (some ⟨wordKind, text⟩) ts := by
      rintro l ⟨⟩
      exact ⟨rfl, single⟩
    -- no rule fits at any of its characters, so all of them go to one word
    have hlater := h.reads _ tail hword hstops
    have hplain : Plain limit level text.toList (later.toList ++ tail) :=
      plain_of_free hlevel.proper (fun t ht => hlevel.isLeaf_eq_false ht) free
    rw [String.toList_append, List.append_assoc]
    apply Reads.plain hlevel.proper hplain (mt String.toList_eq_nil_iff.mp filled)
    rw [String.ofList_toList]
    exact hlater

/-- **A branch in front of a spelled forest.** Its interior is spelled at the level inside it, and
is followed there by the closing delimiter. -/
theorem branch (hlevel : level.Certain) {kind start stop : String} {inner : Option Grammar}
    (ht : .branch kind start stop inner ∈ level.rules)
    (foreign : level.closing.any (TokenType.branch kind start stop inner).sameKind = false)
    {children : List Token} (filled : children ≠ []) {within later : String}
    (hin : Spells limit (level.inside (.branch kind start stop inner)) children within)
    (hon : Spells (limit + 1) level ts later) :
    Spells (limit + 1) level (.branch kind children :: ts)
      (start ++ within ++ stop ++ later) := by
  have hrules := hlevel.proper.rules
  have hstartne := (hrules.marks_ne_empty ht).1
  refine ⟨?_, ?_⟩
  · -- the interior is written in the scope of the branch
    intro w hknows
    have hentered := (hknows.put start).enter hrules ht
    have hbranch := hknows.write_branch ht (hin.written _ hentered)
    rw [Writer.writeAll_cons, hbranch, hon.written _ (hknows.put _), Writer.put_put]
  · intro pending tail hpending hstops
    have hnothing : ∀ {ts'}, Leaf.Before none ts' := fun _ => nofun
    -- behind the interior stands the closing delimiter, so the level inside stops there
    have hstop : (level.inside (.branch kind start stop inner)).Stops
        (stop.toList ++ (later.toList ++ tail)) :=
      .inr ⟨kind, start, stop, inner, rfl, List.prefix_append _ _⟩
    have hwithin := hin.reads none _ hnothing hstop
    have honward := hon.reads none tail hnothing hstops
    obtain ⟨c, cs, hcs⟩ : ∃ c cs, start.toList ++ (within.toList ++ (stop.toList ++
        (later.toList ++ tail))) = c :: cs := List.exists_cons_of_ne_nil (by simp [hstartne])
    -- where the opening delimiter stands, the branch comes next
    have hnext : level.next (start.toList ++ (within.toList ++ (stop.toList ++
        (later.toList ++ tail)))) = ⟨.branch kind start stop inner, start.utf8ByteSize⟩ := by
      rw [hcs]
      refine hlevel.next_start ht foreign ?_
      rw [← hcs]
      exact List.prefix_append _ _
    have hfresh := hpending.fresh (hrules.kind_ne_word ht)
    have hreads := Reads.branch ⟨hnext, hfresh, foreign⟩ filled hwithin honward
    simp only [String.toList_append, List.append_assoc]
    exact hreads

end Spells
end Scan

/-- **Every canonical forest has a text,** as long as there is room for its nesting. -/
theorem Canonical.exists_spells {level : Level} {ts : List Token} (h : Canonical level ts)
    (hlevel : level.Certain) {limit : Nat} (hroom : Token.nestingOfList ts ≤ limit) :
    ∃ text, Scan.Spells limit level ts text := by
  induction h generalizing limit with
  | nil => exact ⟨"", .nil hlevel⟩
  | word filled free single _ ih =>
    rw [Token.nestingOfList] at hroom
    obtain ⟨later, hlater⟩ := ih hlevel (Nat.le_trans (Nat.le_max_right _ _) hroom)
    exact ⟨_, .word hlevel filled free single hlater⟩
  | @branch level t children ts mem foreign filled _ _ ihin ihon =>
    rw [Token.nestingOfList, Token.nesting, Nat.max_le] at hroom
    obtain ⟨kind, a, b, inner, rfl⟩ :=
      TokenType.isSingle_iff.mp ((hlevel.unambiguous _ .top).single t mem)
    cases limit with
    | zero =>
      -- a branch needs room for at least itself
      exact absurd hroom.1 (Nat.not_succ_le_zero _)
    | succ l =>
      obtain ⟨within, hwithin⟩ := ihin (hlevel.inside mem rfl) (Nat.le_of_succ_le_succ hroom.1)
      obtain ⟨later, hlater⟩ := ihon hlevel hroom.2
      have hforeign : level.closing.any (TokenType.branch kind (String.singleton a)
          (String.singleton b) inner).sameKind = false := by
        cases hclosing : level.closing with
        | none => rfl
        | some around => simpa [TokenType.sameKind] using foreign around hclosing
      exact ⟨_, .branch hlevel mem hforeign filled hwithin hlater⟩

namespace Tokenizer

/-- **Writing and reading back.** If a valid grammar is unambiguous wherever a scan can come to,
then a canonical forest is read back from its text, by every tokenizer that allows for its
nesting. -/
theorem tokenize_source {g : Grammar} (hg : g.Valid)
    (hclear : ∀ rules, g.Usable rules → rules.Unambiguous) {ts : List Token}
    (hts : Canonical (.top g) ts) {maxDepth : Nat} (hroom : Token.nestingOfList ts ≤ maxDepth) :
    (⟨g, maxDepth⟩ : Tokenizer).tokenize (g.source ts) = ts := by
  obtain ⟨text, hspells⟩ := hts.exists_spells ⟨Level.proper_top hg, hclear⟩ hroom
  have hsource : g.source ts = text := by
    have hwritten := hspells.written (Writer.start g) (Writer.knows_start hg.isRuleList)
    rw [Grammar.source, Grammar.written, hwritten]
    exact String.empty_append
  -- nothing is under way at the start of the whole text, and nothing follows it
  have hreads := hspells.reads none [] (fun _ => nofun) (.inl ⟨rfl, rfl⟩)
  rw [List.append_nil] at hreads
  rw [hsource]
  exact tokenize_eq_of_reads hg hreads

/-! A grammar with notes, in which bold text is marked and italic text is not. -/

namespace Notes

def bold : TokenType := .surround "bold" "*"

def note : TokenType := (TokenType.delimited "note" "(" ")").withGrammar [bold]

def italic : TokenType := .surround "italic" "_"

def grammar : Grammar := [note, italic]

theorem valid : grammar.Valid := by
  refine .intro rfl ?_
  intro t ht g hg
  simp only [grammar, List.mem_cons, List.not_mem_nil, or_false] at ht
  rcases ht with rfl | rfl <;> cases hg
  refine .intro rfl ?_
  intro u hu g' hg'
  obtain rfl := List.mem_singleton.mp hu
  cases hg'

/-- Two rule lists can be come to. -/
theorem usable_cases (rules : Grammar) (h : grammar.Usable rules) :
    rules = grammar ∨ rules = [note, bold] := by
  induction h with
  | top => exact .inl rfl
  | inside _ mem inner ih =>
    -- only a note has a grammar of its own, wherever it stands
    rcases ih with rfl | rfl <;>
      · simp only [grammar, List.mem_cons, List.not_mem_nil, or_false] at mem
        rcases mem with rfl | rfl <;> cases inner
        exact .inr rfl

/-- Both are unambiguous. -/
theorem unambiguous (rules : Grammar) (h : grammar.Usable rules) : rules.Unambiguous := by
  rcases usable_cases rules h with rfl | rfl <;> decide

/-- Bold text in a note, with another note inside it. -/
def forest : List Token :=
  [.word "a", .branch "italic" [.branch "note" [.branch "bold" [.branch "note" [.word "_é"]]]],
    .branch "italic" [.word "b*"]]

theorem canonical : Canonical (.top grammar) forest := by
  have hinside : ∀ {t u : TokenType}, u.kind ≠ t.kind →
      ∀ b, some t = some b → u.kind ≠ b.kind := by
    rintro t u hne b ⟨⟩
    exact hne
  refine .word (by decide) (by decide) (by rintro t ⟨⟩; rfl) ?_
  refine .branch (t := italic) (.tail _ (.head _)) (fun _ => nofun) (List.cons_ne_nil _ _) ?_ ?_
  · refine .branch (t := note) (.head _) (hinside (by decide)) (List.cons_ne_nil _ _) ?_ .nil
    refine .branch (t := bold) (.tail _ (.head _)) (hinside (by decide)) (List.cons_ne_nil _ _)
      ?_ .nil
    refine .branch (t := note) (.head _) (hinside (by decide)) (List.cons_ne_nil _ _) ?_ .nil
    exact .word (by decide) (by decide) (fun _ => nofun) .nil
  · refine .branch (t := italic) (.tail _ (.head _)) (fun _ => nofun) (List.cons_ne_nil _ _) ?_
      .nil
    exact .word (by decide) (by decide) (fun _ => nofun) .nil

end Notes

/-- Bold text in a note, with another note inside it, is read back. -/
theorem tokenize_source_notes :
    Notes.grammar.Valid ∧ (∀ rules, Notes.grammar.Usable rules → rules.Unambiguous) ∧
      Canonical (.top Notes.grammar) Notes.forest ∧ Token.nestingOfList Notes.forest ≤ 4 ∧
      Notes.grammar.source Notes.forest = "a_(*(_é)*)__b*_" ∧
      (⟨Notes.grammar, 4⟩ : Tokenizer).tokenize (Notes.grammar.source Notes.forest) =
        Notes.forest := by
  have hroom : Token.nestingOfList Notes.forest ≤ 4 := by decide
  exact ⟨Notes.valid, Notes.unambiguous, Notes.canonical, hroom, by decide +kernel,
    tokenize_source Notes.valid Notes.unambiguous Notes.canonical hroom⟩

end Tokenizer
end InlineMarkup
