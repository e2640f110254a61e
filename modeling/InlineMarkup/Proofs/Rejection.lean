import InlineMarkup.Proofs.Canonical
import InlineMarkup.Proofs.Moments

/-!
# Lists of types that are rejected

A list of types is checked type by type, and each type first by itself and then against the types in
front of it. So the error of a list with several faults depends on two orders: that of the types and
that of the rules. Here both are stated apart from the check.

* `TokenType.Violates` — what is wrong with a type behind others, one constructor for each rule, and
  `GrammarError.rank`, the order of the rules.
* `TokenType.faultBehind?` — what the check says of one type, and `TokenType.faultBehind?_cases`
  what that means. `Grammar.faultAfter?_eq_some_iff` is the step from there to a whole list.
* `Grammar.Usable.isRuleList` — acceptance goes from a grammar to all rule lists that a scan can
  come to, and `Tokenizer.usable_of_reaches` says that a run comes to no others.
* `Grammar.ofTypes_by_rules` — acceptance, rejection, and what they are good for.
-/

namespace InlineMarkup

/-! ### Rules -/

/-- **The order of the rules:** of two faults of one type the one with the lower rank is told. -/
def GrammarError.rank : GrammarError → Nat
  | emptyKind => 0
  | reservedKind _ => 1
  | emptyDelimiter _ => 2
  | selfNested _ => 3
  | duplicateKind _ => 4

namespace TokenType

/-- **A type that breaks a rule** behind the types `earlier`, with the error that tells so. -/
inductive Violates (earlier : List TokenType) (t : TokenType) : GrammarError → Prop where
  | emptyKind (empty : t.kind = "") : Violates earlier t .emptyKind
  | reservedKind (word : t.kind = wordKind) : Violates earlier t (.reservedKind t.kind)
  | emptyDelimiter (mark : t.start? = some "" ∨ t.stop? = some "") :
      Violates earlier t (.emptyDelimiter t.kind)
  | selfNested {g : Grammar} {u : TokenType} (inner : t.inner? = some g) (mem : u ∈ g)
      (same : u.kind = t.kind) : Violates earlier t (.selfNested t.kind)
  | duplicateKind {u : TokenType} (mem : u ∈ earlier) (same : u.kind = t.kind) :
      Violates earlier t (.duplicateKind t.kind)

/-- **The first rule that a type breaks** behind the types `earlier`. -/
structure Offends (earlier : List TokenType) (t : TokenType) (e : GrammarError) : Prop where
  violates : t.Violates earlier e
  first : ∀ e', t.Violates earlier e' → e.rank ≤ e'.rank

variable {earlier earlier' : List TokenType} {t : TokenType} {e e' : GrammarError}

/-- Each rule has one error for a type. -/
theorem Violates.eq_of_rank_eq (h : t.Violates earlier e) (h' : t.Violates earlier e')
    (hrank : e.rank = e'.rank) : e = e' := by
  cases h <;> cases h' <;> first | rfl | cases hrank

theorem Offends.unique (h : t.Offends earlier e) (h' : t.Offends earlier e') : e = e' :=
  h.violates.eq_of_rank_eq h'.violates
    (Nat.le_antisymm (h.first _ h'.violates) (h'.first _ h.violates))

/-- It does not matter in which order the earlier types stand. -/
theorem Violates.of_mem (h : t.Violates earlier e) (hmem : ∀ u ∈ earlier, u ∈ earlier') :
    t.Violates earlier' e := by
  cases h with
  | emptyKind empty => exact .emptyKind empty
  | reservedKind word => exact .reservedKind word
  | emptyDelimiter mark => exact .emptyDelimiter mark
  | selfNested inner mem same => exact .selfNested inner mem same
  | duplicateKind mem same => exact .duplicateKind (hmem _ mem) same

theorem violates_congr (hmem : ∀ u, u ∈ earlier ↔ u ∈ earlier') :
    t.Violates earlier e ↔ t.Violates earlier' e :=
  ⟨fun h => h.of_mem fun u => (hmem u).mp, fun h => h.of_mem fun u => (hmem u).mpr⟩

theorem offends_congr (hmem : ∀ u, u ∈ earlier ↔ u ∈ earlier') :
    t.Offends earlier e ↔ t.Offends earlier' e := by
  constructor
  · rintro ⟨hviolates, hfirst⟩
    exact ⟨(violates_congr hmem).mp hviolates, fun e' h => hfirst e' ((violates_congr hmem).mpr h)⟩
  · rintro ⟨hviolates, hfirst⟩
    exact ⟨(violates_congr hmem).mpr hviolates, fun e' h => hfirst e' ((violates_congr hmem).mp h)⟩

/-! ### The check of one type -/

/-- **What the check says of a type** behind the types `earlier`. -/
def faultBehind? (earlier : List TokenType) (t : TokenType) : Option GrammarError :=
  t.fault?.or (if earlier.any t.sameKind then some (.duplicateKind t.kind) else none)

/-- Once the name has been found proper, an empty delimiter is the first thing that is told. -/
theorem fault?_of_empty_mark (hempty : t.kind ≠ "") (hword : t.kind ≠ wordKind)
    (hmark : t.start? = some "" ∨ t.stop? = some "") :
    t.fault? = some (.emptyDelimiter t.kind) := by
  cases t with
  | leaf k c => rcases hmark with h | h <;> cases h
  | branch k start stop inner =>
    have hmarks : start = "" ∨ stop = "" := hmark.imp Option.some.inj Option.some.inj
    unfold fault?
    rw [if_neg hempty, if_neg hword]
    exact if_pos hmarks

/-- Then comes a grammar that declares the kind once more. -/
theorem fault?_of_self_nested (hempty : t.kind ≠ "") (hword : t.kind ≠ wordKind)
    (hmark : ¬ (t.start? = some "" ∨ t.stop? = some "")) {g : Grammar} {u : TokenType}
    (hinner : t.inner? = some g) (hu : u ∈ g) (hsame : u.kind = t.kind) :
    t.fault? = some (.selfNested t.kind) := by
  cases t with
  | leaf k c => cases hinner
  | branch k start stop inner =>
    obtain rfl : inner = some g := hinner
    have hmarks : ¬ (start = "" ∨ stop = "") :=
      fun h => hmark (h.imp (congrArg some) (congrArg some))
    have hself : g.any (branch k start stop (some g)).sameKind = true :=
      any_sameKind_iff.mpr ⟨u, hu, hsame⟩
    unfold fault?
    rw [if_neg hempty, if_neg hword]
    dsimp only
    rw [if_neg hmarks]
    exact if_pos hself

/-- A type without a fault, by its delimiters and its own grammar. -/
theorem faultless_iff :
    t.fault? = none ↔ t.kind ≠ "" ∧ t.kind ≠ wordKind ∧ t.start? ≠ some "" ∧ t.stop? ≠ some "" ∧
      ∀ g, t.inner? = some g → ∀ u ∈ g, u.kind ≠ t.kind := by
  rw [fault?_eq_none_iff]
  refine and_congr_right fun _ => and_congr_right fun _ => ?_
  cases t with
  | leaf k c =>
    -- a leaf has neither delimiters nor a grammar
    refine iff_of_true (fun _ _ _ _ => nofun) ⟨nofun, nofun, fun _ => nofun⟩
  | branch k start stop inner =>
    -- what is said of the delimiters and the grammar is said of those of this branch
    constructor
    · intro h
      obtain ⟨hstart, hstop, hself⟩ := h k start stop inner rfl
      refine ⟨fun h => hstart (Option.some.inj h), fun h => hstop (Option.some.inj h), ?_⟩
      rintro g ⟨⟩
      exact hself
    · rintro ⟨hstart, hstop, hself⟩ k' start' stop' inner' ⟨⟩
      refine ⟨fun h => hstart (congrArg some h), fun h => hstop (congrArg some h), ?_⟩
      cases inner with
      | none => exact fun _ => nofun
      | some g => exact hself g rfl

/-- A fault that a type has by itself is that of the first rule it breaks. -/
theorem fault?_cases (earlier : List TokenType) (t : TokenType) :
    t.fault? = none ∨ ∃ e, t.fault? = some e ∧ t.Offends earlier e := by
  -- the rules in their order: where one is broken, those before it are known to be kept
  by_cases hempty : t.kind = ""
  · exact .inr ⟨.emptyKind, if_pos hempty, .emptyKind hempty, fun _ _ => Nat.zero_le _⟩
  by_cases hword : t.kind = wordKind
  · refine .inr ⟨.reservedKind t.kind, (if_neg hempty).trans (if_pos hword),
      .reservedKind hword, fun e h => ?_⟩
    cases h <;> first | contradiction | exact Nat.le_of_ble_eq_true rfl
  by_cases hmark : t.start? = some "" ∨ t.stop? = some ""
  · refine .inr ⟨.emptyDelimiter t.kind, fault?_of_empty_mark hempty hword hmark,
      .emptyDelimiter hmark, fun e h => ?_⟩
    cases h <;> first | contradiction | exact Nat.le_of_ble_eq_true rfl
  by_cases hself : ∃ g u, t.inner? = some g ∧ u ∈ g ∧ u.kind = t.kind
  · obtain ⟨g, u, hinner, hu, hsame⟩ := hself
    refine .inr ⟨.selfNested t.kind, fault?_of_self_nested hempty hword hmark hinner hu hsame,
      .selfNested hinner hu hsame, fun e h => ?_⟩
    cases h <;> first | contradiction | exact Nat.le_of_ble_eq_true rfl
  exact .inl (faultless_iff.mpr ⟨hempty, hword, fun h => hmark (.inl h), fun h => hmark (.inr h),
    fun g hinner u hu hsame => hself ⟨g, u, hinner, hu, hsame⟩⟩)

/-- A type without a fault of its own can break the last rule only. -/
theorem violates_iff_of_faultless (hnone : t.fault? = none) :
    t.Violates earlier e ↔ e = .duplicateKind t.kind ∧ ∃ u ∈ earlier, u.kind = t.kind := by
  obtain ⟨hempty, hword, hstart, hstop, hself⟩ := faultless_iff.mp hnone
  constructor
  · intro h
    cases h with
    | emptyKind h => exact absurd h hempty
    | reservedKind h => exact absurd h hword
    | emptyDelimiter h => exact absurd h (not_or.mpr ⟨hstart, hstop⟩)
    | selfNested hinner hu hsame => exact absurd hsame (hself _ hinner _ hu)
    | duplicateKind hu hsame => exact ⟨rfl, _, hu, hsame⟩
  · rintro ⟨rfl, u, hu, hsame⟩
    exact .duplicateKind hu hsame

/-- **The check of one type** says that no rule is broken, or the first one that is. -/
theorem faultBehind?_cases (earlier : List TokenType) (t : TokenType) :
    (t.faultBehind? earlier = none ∧ ∀ e, ¬ t.Violates earlier e) ∨
      ∃ e, t.faultBehind? earlier = some e ∧ t.Offends earlier e := by
  unfold faultBehind?
  rcases fault?_cases earlier t with hnone | ⟨e, hfault, hoffends⟩
  · rw [hnone, Option.none_or]
    -- no fault of its own, so only an earlier type of its kind could be one
    by_cases htwice : ∃ u ∈ earlier, u.kind = t.kind
    · refine .inr ⟨.duplicateKind t.kind, if_pos (any_sameKind_iff.mpr htwice),
        (violates_iff_of_faultless hnone).mpr ⟨rfl, htwice⟩, fun e h => ?_⟩
      obtain ⟨rfl, -⟩ := (violates_iff_of_faultless hnone).mp h
      exact Nat.le_refl _
    · exact .inl ⟨if_neg fun h => htwice (any_sameKind_iff.mp h),
        fun e h => htwice ((violates_iff_of_faultless hnone).mp h).2⟩
  · exact .inr ⟨e, by rw [hfault, Option.some_or], hoffends⟩

end TokenType

namespace Grammar

variable {types : List TokenType} {e : GrammarError}

/-! ### The check of a list -/

theorem faultAfter?_cons (earlier : List TokenType) (t : TokenType) (ts : List TokenType) :
    faultAfter? earlier (t :: ts) =
      (t.faultBehind? earlier).or (faultAfter? (t :: earlier) ts) := by
  rw [faultAfter?, TokenType.faultBehind?]
  cases t.fault? with
  | some e => rfl
  | none =>
    rw [Option.none_or]
    cases earlier.any t.sameKind <;> rfl

/-- **The error of a list** is that of the first type that breaks a rule, behind the types that the
list has in front of it. -/
theorem faultAfter?_eq_some_iff (types earlier : List TokenType) :
    faultAfter? earlier types = some e ↔
      ∃ (i : Nat) (t : TokenType), types[i]? = some t ∧
        t.Offends (earlier ++ types.take i) e ∧
        ∀ j < i, ∀ u, types[j]? = some u → ∀ e', ¬ u.Violates (earlier ++ types.take j) e' := by
  induction types generalizing earlier with
  | nil => simp [faultAfter?]
  | cons t ts ih =>
    rw [faultAfter?_cons]
    -- the check has put `t` in front of the earlier types, where the list has it behind them
    have hmem (i : Nat) (u : TokenType) :
        u ∈ t :: earlier ++ ts.take i ↔ u ∈ earlier ++ (t :: ts).take (i + 1) := by
      simp only [List.take_succ_cons, List.mem_append, List.mem_cons]
      tauto
    have hnow : earlier ++ (t :: ts).take 0 = earlier := List.append_nil earlier
    rcases t.faultBehind?_cases earlier with ⟨hnone, hkept⟩ | ⟨e₀, hsome, hoffends⟩
    · -- `t` breaks no rule, so the error is that of a later type
      rw [hnone, Option.none_or, ih]
      constructor
      · rintro ⟨i, u, hu, hoffends, hbefore⟩
        refine ⟨i + 1, u, hu, (TokenType.offends_congr (hmem i)).mp hoffends, ?_⟩
        intro j hj v hv e' hviolates
        cases j with
        | zero =>
          -- `t` itself breaks none
          cases hv
          rw [hnow] at hviolates
          exact hkept e' hviolates
        | succ j =>
          -- and those behind it none as long as they stand before the one that does
          exact hbefore j (Nat.lt_of_succ_lt_succ hj) v hv e'
            ((TokenType.violates_congr (hmem j)).mpr hviolates)
      · rintro ⟨i, u, hu, hoffends, hbefore⟩
        cases i with
        | zero =>
          -- it cannot be `t`
          cases hu
          rw [hnow] at hoffends
          exact absurd hoffends.violates (hkept e)
        | succ i =>
          refine ⟨i, u, hu, (TokenType.offends_congr (hmem i)).mpr hoffends, ?_⟩
          intro j hj v hv e' hviolates
          exact hbefore (j + 1) (Nat.succ_lt_succ hj) v hv e'
            ((TokenType.violates_congr (hmem j)).mp hviolates)
    · -- `t` breaks a rule, so the check ends with it
      rw [hsome, Option.some_or, Option.some.injEq]
      constructor
      · rintro rfl
        exact ⟨0, t, rfl, by rwa [hnow], fun j hj => absurd hj (Nat.not_lt_zero j)⟩
      · rintro ⟨i, u, hu, hoffends', hbefore⟩
        cases i with
        | zero =>
          -- what `t` is told is the first rule that it breaks
          cases hu
          rw [hnow] at hoffends'
          exact hoffends.unique hoffends'
        | succ i =>
          -- a later type would not be the first
          have hfirst := hbefore 0 (Nat.succ_pos i) t rfl e₀
          rw [hnow] at hfirst
          exact absurd hoffends.violates hfirst

/-- **Rejection, exactly.** -/
theorem ofTypes_eq_error_iff :
    ofTypes types = .error e ↔
      ∃ (i : Nat) (t : TokenType), types[i]? = some t ∧ t.Offends (types.take i) e ∧
        ∀ j < i, ∀ u, types[j]? = some u → ∀ e', ¬ u.Violates (types.take j) e' := by
  have hiff := faultAfter?_eq_some_iff (e := e) types []
  simp only [List.nil_append] at hiff
  rw [← hiff]
  unfold ofTypes
  cases faultAfter? [] types <;> simp

/-! ### Rule lists -/

/-- **All rule lists that a scan can come to** with a valid grammar are good ones. -/
theorem Usable.isRuleList {g rules : Grammar} (h : g.Usable rules) (hg : g.Valid) :
    rules.IsRuleList := by
  induction h with
  | top => exact hg.isRuleList
  | inside _ mem inner ih => exact ih.inside mem inner

end Grammar

namespace Tokenizer

/-- **A run comes to no other rule lists** than those made of branches and their own grammars. -/
theorem usable_of_reaches {t : Tokenizer} {text : String} {m : Moment} (h : t.Reaches text m) :
    t.grammar.Usable m.level.rules := by
  -- the level changes only where the scan of an interior begins
  induction h with
  | refl => exact .top
  | tail _ hnext ih =>
    cases hnext with
    | absorbed => exact ih
    | emitted => exact ih
    | inside _ comes opens =>
      have hbranch := TokenType.isLeaf_eq_false_of_start? opens
      exact ih.level_inside (Level.mem_of_next_branch comes.next hbranch)

end Tokenizer

namespace Grammar

/-- **Acceptance and rejection.** A list of types is accepted, unchanged, exactly if every kind is a
proper name, no delimiter is empty, no branch declares its kind once more in its own grammar, and no
kind stands twice. Otherwise the error is that of the first type that breaks a rule, and of the
first rule that it breaks. If the grammars inside have been accepted too, then a run comes only to
rule lists that are the whole grammar or a branch followed by its own, and in each of these kinds
are distinct and properly named and no delimiter is empty. -/
theorem ofTypes_by_rules (types : List TokenType) :
    (∀ g, ofTypes types = .ok g ↔ g = types ∧
        (∀ t ∈ types, t.kind ≠ "" ∧ t.kind ≠ wordKind ∧
          t.start? ≠ some "" ∧ t.stop? ≠ some "" ∧
          ∀ h, t.inner? = some h → ∀ u ∈ h, u.kind ≠ t.kind) ∧
        (types.map TokenType.kind).Nodup) ∧
      (∀ e, ofTypes types = .error e ↔
        ∃ (i : Nat) (t : TokenType), types[i]? = some t ∧ t.Offends (types.take i) e ∧
          ∀ j < i, ∀ u, types[j]? = some u → ∀ e', ¬ u.Violates (types.take j) e') ∧
      (Valid types →
        (∀ rules, Usable types rules →
          (∀ t ∈ rules, t.kind ≠ "" ∧ t.kind ≠ wordKind ∧
            t.start? ≠ some "" ∧ t.stop? ≠ some "") ∧
          (rules.map TokenType.kind).Nodup) ∧
        ∀ maxDepth text m, Tokenizer.Reaches ⟨types, maxDepth⟩ text m →
          Usable types m.level.rules) := by
  refine ⟨fun g => ?_, fun e => ofTypes_eq_error_iff, fun hvalid => ⟨fun rules hrules => ?_, ?_⟩⟩
  · -- what acceptance comes to
    rw [ofTypes_eq_ok_iff, eq_comm]
    simp only [TokenType.faultless_iff]
  · -- what holds in every rule list that a run comes to
    have hgood := hrules.isRuleList hvalid
    refine ⟨fun t ht => ?_, hgood.distinct⟩
    obtain ⟨hempty, hword, hstart, hstop, -⟩ := TokenType.faultless_iff.mp (hgood.faultless t ht)
    exact ⟨hempty, hword, hstart, hstop⟩
  · exact fun maxDepth text m h => Tokenizer.usable_of_reaches h

namespace Boxes

/-- Boxes between curly brackets, inside quotes, inside boxes between square ones. -/
def curly : TokenType := .delimited "box" "\x7b" "\x7d"

def quote : TokenType := (TokenType.delimited "quote" "<" ">").withGrammar [curly]

def square : TokenType := (TokenType.delimited "box" "[" "]").withGrammar [quote]

theorem valid : Valid [square] := by
  have hcurly : Valid [curly] := valid_of_flat rfl (by decide)
  have hquote : Valid [quote] := .intro rfl (by
    rintro t ht h hinner
    obtain rfl := List.mem_singleton.mp ht
    cases hinner
    exact hcurly)
  refine .intro rfl ?_
  rintro t ht h hinner
  obtain rfl := List.mem_singleton.mp ht
  cases hinner
  exact hquote

end Boxes

/-- A kind may stand for two types, one of them further inside, but never in one rule list. -/
theorem ofTypes_by_rules_boxes :
    Valid [Boxes.square] ∧ Usable [Boxes.square] [Boxes.quote, Boxes.curly] ∧
      ([Boxes.quote, Boxes.curly].map TokenType.kind).Nodup := by
  have hsquare : Usable [Boxes.square] [Boxes.square] := .top
  have hquote : Usable [Boxes.square] [Boxes.square, Boxes.quote] :=
    hsquare.inside List.mem_cons_self rfl
  have hcurly : Usable [Boxes.square] [Boxes.quote, Boxes.curly] :=
    hquote.inside (List.mem_cons_of_mem _ List.mem_cons_self) rfl
  exact ⟨Boxes.valid, hcurly, (((ofTypes_by_rules _).2.2 Boxes.valid).1 _ hcurly).2⟩

/-- Of three faults those of the earlier type count, and of its two the one of its name. -/
example : ofTypes [.plain "a", .delimited "word" "" "x", .plain ""] =
    .error (.reservedKind "word") := rfl

end Grammar
end InlineMarkup
