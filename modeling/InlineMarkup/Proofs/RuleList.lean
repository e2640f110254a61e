import Mathlib.Data.List.Nodup
import InlineMarkup.Scan

/-!
# Rule lists

What a scan reads with is a *rule list*: the types of a grammar, or a branch followed by the types
of its own grammar. Acceptance of the grammars inside each other makes every rule list that a scan
can come to a good one, and this module says what "good" is:

* `Grammar.ofTypes_eq_ok_iff` — a list of types is accepted exactly if each type is free of faults
  and no kind stands twice.
* `Grammar.IsRuleList` — the three facts about a rule list that all later arguments rest on. It
  holds of a valid grammar (`Grammar.Valid.isRuleList`) and goes over to the rules inside a branch
  (`Grammar.IsRuleList.inside`), because a branch may not declare its own kind in its own grammar.
* `Level.Proper` — the same for a level, together with the branch that the level is inside of. It
  holds at the top and goes over to the level inside a branch (`Level.Proper.inside`).

In a rule list a kind stands for one type (`Grammar.IsRuleList.eq_of_kind_eq`). That is what lets
a closing delimiter, a scope and the memory of a session go by kind.
-/

namespace InlineMarkup

namespace TokenType

theorem sameKind_iff {a b : TokenType} : a.sameKind b = true ↔ a.kind = b.kind := by
  simp [sameKind]

/-- The test for a kind that stands in a list already. -/
theorem any_sameKind_iff {t : TokenType} {us : List TokenType} :
    us.any t.sameKind = true ↔ ∃ u ∈ us, u.kind = t.kind := by
  rw [List.any_eq_true]
  exact exists_congr fun u => and_congr_right fun _ => sameKind_iff.trans eq_comm

/-- A type with an opening delimiter is a branch. -/
theorem isLeaf_eq_false_of_start? {t : TokenType} {start : String} (h : t.start? = some start) :
    t.isLeaf = false := by
  cases t with
  | leaf kind constraint => cases h
  | branch kind start stop inner => rfl

/-- **A type without a fault.** It has a name of its own, and a branch has two delimiters and does
not declare its kind once more in its own grammar. -/
theorem fault?_eq_none_iff {t : TokenType} :
    t.fault? = none ↔ t.kind ≠ "" ∧ t.kind ≠ wordKind ∧
      ∀ k start stop inner, t = .branch k start stop inner →
        start ≠ "" ∧ stop ≠ "" ∧ ∀ u ∈ inner.getD [], u.kind ≠ k := by
  unfold fault?
  -- the tests in their order: each one that is passed gives its part of the conjunction
  by_cases hempty : t.kind = ""
  · simp [hempty]
  by_cases hword : t.kind = wordKind
  · simp [hword, ite_eq_iff]
  rw [if_neg hempty, if_neg hword]
  cases t with
  | leaf k c => simp [hempty, hword]
  | branch k start stop inner =>
    dsimp only
    -- only a branch has delimiters to be tested, and types of its own
    by_cases hmarks : start = "" ∨ stop = ""
    · simp only [if_pos hmarks, reduceCtorEq, false_iff]
      rintro ⟨-, -, h⟩
      obtain ⟨h₁, h₂, -⟩ := h k start stop inner rfl
      exact hmarks.elim h₁ h₂
    · rw [if_neg hmarks]
      have hany : (inner.getD []).any (branch k start stop inner).sameKind = true ↔
          ∃ u ∈ inner.getD [], u.kind = k := any_sameKind_iff
      by_cases hself : ∃ u ∈ inner.getD [], u.kind = k
      · rw [if_pos (hany.mpr hself)]
        simp only [reduceCtorEq, false_iff]
        rintro ⟨-, -, h⟩
        obtain ⟨u, hu, huk⟩ := hself
        exact (h k start stop inner rfl).2.2 u hu huk
      · -- all tests are passed
        rw [if_neg (fun h => hself (hany.mp h))]
        simp only [true_iff]
        refine ⟨hempty, hword, ?_⟩
        rintro k' start' stop' inner' h
        cases h
        rw [not_or] at hmarks
        exact ⟨hmarks.1, hmarks.2, fun u hu huk => hself ⟨u, hu, huk⟩⟩

end TokenType

namespace Grammar

/-- The types that stand after `earlier` ones are free of faults, and no kind comes again. -/
theorem faultAfter?_eq_none_iff (types earlier : List TokenType) :
    faultAfter? earlier types = none ↔
      (∀ t ∈ types, t.fault? = none) ∧ (types.map TokenType.kind).Nodup ∧
        ∀ t ∈ types, ∀ e ∈ earlier, e.kind ≠ t.kind := by
  induction types generalizing earlier with
  | nil => simp [faultAfter?]
  | cons t ts ih =>
    unfold faultAfter?
    cases hfault : t.fault? with
    | some e => simp [hfault]
    | none =>
      by_cases htwice : ∃ e ∈ earlier, e.kind = t.kind
      · simp only [if_pos (TokenType.any_sameKind_iff.mpr htwice), reduceCtorEq, false_iff]
        rintro ⟨-, -, h⟩
        obtain ⟨e, he, het⟩ := htwice
        exact h t List.mem_cons_self e he het
      · simp only [if_neg (fun h => htwice (TokenType.any_sameKind_iff.mp h)), ih, List.map_cons,
          List.nodup_cons, List.mem_map, List.forall_mem_cons, hfault, true_and]
        -- to be new behind `t` is to be new behind the earlier types and not of the kind of `t`
        push Not at htwice
        -- no type behind `t` is of its kind, said of the types or of their kinds
        constructor
        · rintro ⟨hts, hnodup, hrest⟩
          refine ⟨hts, ⟨?_, hnodup⟩, htwice, fun u hu => (hrest u hu).2⟩
          rintro ⟨u, hu, huk⟩
          exact (hrest u hu).1 huk.symm
        · rintro ⟨hts, ⟨hfresh, hnodup⟩, -, hrest⟩
          exact ⟨hts, hnodup, fun u hu => ⟨fun h => hfresh ⟨u, hu, h.symm⟩, hrest u hu⟩⟩

/-- **Acceptance, exactly.** A list of types is accepted, unchanged, if each type is free of faults
and no kind stands twice. -/
theorem ofTypes_eq_ok_iff {types g : Grammar} :
    ofTypes types = .ok g ↔
      types = g ∧ (∀ t ∈ types, t.fault? = none) ∧ (types.map TokenType.kind).Nodup := by
  have hiff := faultAfter?_eq_none_iff types []
  unfold ofTypes
  cases hfault : faultAfter? [] types with
  | some e =>
    -- one fault is enough to be refused
    have hbad : ¬ ((∀ t ∈ types, t.fault? = none) ∧ (types.map TokenType.kind).Nodup) := by
      rintro ⟨h₁, h₂⟩
      rw [hiff.mpr ⟨h₁, h₂, fun _ _ _ h => absurd h List.not_mem_nil⟩] at hfault
      cases hfault
    simp [hbad]
  | none =>
    obtain ⟨h₁, h₂, -⟩ := hiff.mp hfault
    simp only [Except.ok.injEq, iff_self_and]
    exact fun _ => ⟨h₁, h₂⟩

/-- What stands at the front of an accepted list is accepted. -/
theorem accepted_of_append {us vs : List TokenType} (h : ofTypes (us ++ vs) = .ok (us ++ vs)) :
    ofTypes us = .ok us := by
  obtain ⟨-, hfaultless, hdistinct⟩ := ofTypes_eq_ok_iff.mp h
  rw [List.map_append] at hdistinct
  exact ofTypes_eq_ok_iff.mpr
    ⟨rfl, fun t ht => hfaultless t (List.mem_append_left _ ht), hdistinct.of_append_left⟩

/-- What is found for a kind is a type of that kind. -/
theorem mem_of_own? {g : Grammar} {kind : String} {t : TokenType} (h : g.own? kind = some t) :
    t ∈ g ∧ t.kind = kind :=
  ⟨List.mem_of_find?_eq_some h, by simpa using List.find?_some h⟩

/-- **Looking up a kind.** Where no kind stands twice, it is that of one type. -/
theorem own?_eq_some_iff {g : Grammar} (hdistinct : (g.map TokenType.kind).Nodup) {kind : String}
    {t : TokenType} :
    own? kind g = some t ↔ t ∈ g ∧ t.kind = kind := by
  refine ⟨mem_of_own?, ?_⟩
  rintro ⟨ht, rfl⟩
  cases hfound : g.own? t.kind with
  | none => simpa using List.find?_eq_none.mp hfound t ht
  | some u =>
    obtain ⟨hu, hkind⟩ := mem_of_own? hfound
    rw [List.inj_on_of_nodup_map hdistinct hu ht hkind]

/-- **Rule lists.** Every type is free of faults, no kind stands twice, and the grammars inside are
valid. -/
structure IsRuleList (rules : Grammar) : Prop where
  faultless : ∀ t ∈ rules, t.fault? = none
  distinct : (rules.map TokenType.kind).Nodup
  valid_inside : ∀ t ∈ rules, ∀ g, t.inner? = some g → Valid g

/-- A valid grammar is a rule list. -/
theorem Valid.isRuleList {g : Grammar} (h : g.Valid) : g.IsRuleList := by
  obtain ⟨accepted, inside⟩ := h
  obtain ⟨-, hfaultless, hdistinct⟩ := ofTypes_eq_ok_iff.mp accepted
  exact ⟨hfaultless, hdistinct, inside⟩

namespace IsRuleList

variable {rules g : Grammar} {t u : TokenType}

/-- **In a rule list a kind stands for one type.** -/
theorem eq_of_kind_eq (h : rules.IsRuleList) (ht : t ∈ rules) (hu : u ∈ rules)
    (hkind : t.kind = u.kind) : t = u :=
  List.inj_on_of_nodup_map h.distinct ht hu hkind

theorem kind_ne_word (h : rules.IsRuleList) (ht : t ∈ rules) : t.kind ≠ wordKind :=
  (TokenType.fault?_eq_none_iff.mp (h.faultless t ht)).2.1

/-- The delimiters of a branch in a rule list are not empty. -/
theorem marks_ne_empty (h : rules.IsRuleList) {kind start stop : String}
    {inner : Option Grammar} (ht : .branch kind start stop inner ∈ rules) :
    start ≠ "" ∧ stop ≠ "" := by
  have hsound := TokenType.fault?_eq_none_iff.mp (h.faultless _ ht)
  obtain ⟨hstart, hstop, -⟩ := hsound.2.2 kind start stop inner rfl
  exact ⟨hstart, hstop⟩

/-- The own grammar of a branch does not declare the branch's kind. -/
theorem kind_ne_of_mem_inner (h : rules.IsRuleList) (ht : t ∈ rules) (hinner : t.inner? = some g)
    (hu : u ∈ g) : u.kind ≠ t.kind := by
  cases t with
  | leaf k c => cases hinner
  | branch k start stop inner =>
    have hsound := TokenType.fault?_eq_none_iff.mp (h.faultless _ ht)
    have hself := (hsound.2.2 k start stop inner rfl).2.2
    cases hinner
    exact hself u hu

/-- **The rules inside a branch** are a rule list again: the branch itself is the only one of its
kind in them. -/
theorem inside (h : rules.IsRuleList) (ht : t ∈ rules) (hinner : t.inner? = some g) :
    Grammar.IsRuleList (t :: g) := by
  have hg : g.IsRuleList := (h.valid_inside t ht g hinner).isRuleList
  refine ⟨?_, ?_, ?_⟩
  · intro u hu
    rcases List.mem_cons.mp hu with rfl | hu
    · exact h.faultless u ht
    · exact hg.faultless u hu
  · rw [List.map_cons, List.nodup_cons]
    -- the branch itself is new in front of its grammar, which may not declare its kind
    refine ⟨?_, hg.distinct⟩
    intro hmem
    obtain ⟨u, hu, hkind⟩ := List.mem_map.mp hmem
    exact h.kind_ne_of_mem_inner ht hinner hu hkind
  · intro u hu g' hg'
    rcases List.mem_cons.mp hu with rfl | hu
    · exact h.valid_inside u ht g' hg'
    · exact hg.valid_inside u hu g' hg'

end IsRuleList

/-! ### Stock grammars -/

/-- **A flat grammar is valid** if it is accepted: there is nothing inside it. -/
theorem valid_of_flat {g : Grammar} (accepted : ofTypes g = .ok g)
    (flat : ∀ t ∈ g, t.inner? = none) : Valid g := by
  refine .intro accepted fun t ht h hinner => ?_
  rw [flat t ht] at hinner
  cases hinner

/-- The empty grammar is valid. -/
theorem valid_nil : Valid [] := valid_of_flat rfl fun _ => nofun

/-- **The stock grammar is valid.** The fence, the one branch with a grammar of its own, has the
empty one. -/
theorem valid_stock : stock.Valid := by
  refine .intro rfl ?_
  intro t ht g hg
  simp only [stock, List.mem_cons, List.not_mem_nil, or_false] at ht
  rcases ht with rfl | rfl | rfl | rfl | rfl <;> cases hg
  exact valid_nil

end Grammar

/-! ### Levels -/

namespace Level

/-- **Proper levels.** The rules are a rule list, and the branch that the level is inside of is one
of them. -/
structure Proper (level : Level) : Prop where
  rules : level.rules.IsRuleList
  closing_mem : ∀ b, level.closing = some b → b ∈ level.rules
  closing_branch : ∀ b, level.closing = some b → b.isLeaf = false

/-- The level of a whole text is proper if the grammar is valid. -/
theorem proper_top {g : Grammar} (h : g.Valid) : (top g).Proper :=
  ⟨h.isRuleList, fun _ => nofun, fun _ => nofun⟩

variable {level : Level} {t : TokenType}

/-- A branch is among the rules inside it. -/
theorem mem_rulesInside (ht : t ∈ level.rules) : t ∈ level.rulesInside t := by
  unfold rulesInside
  cases t.inner? with
  | none => exact ht
  | some g => exact List.mem_cons_self

/-- The rules inside a branch are a rule list. -/
theorem Proper.rulesInside (h : level.Proper) (ht : t ∈ level.rules) :
    (level.rulesInside t).IsRuleList := by
  unfold Level.rulesInside
  cases hinner : t.inner? with
  | none => exact h.rules
  | some g => exact h.rules.inside ht hinner

/-- **The level inside a branch of a proper level is proper.** -/
theorem Proper.inside (h : level.Proper) (ht : t ∈ level.rules) (hbranch : t.isLeaf = false) :
    (level.inside t).Proper := by
  refine ⟨h.rulesInside ht, ?_, ?_⟩
  · intro b hb
    cases hb
    exact mem_rulesInside ht
  · intro b hb
    cases hb
    exact hbranch

end Level
end InlineMarkup
