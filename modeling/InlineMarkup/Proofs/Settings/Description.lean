import InlineMarkup.Settings.Entry
import InlineMarkup.Proofs.Result
import InlineMarkup.Proofs.RuleList

/-!
# The type that an entry describes

An entry is a record of settings most of which are optional. `Entry.build` goes through them one
after the other. What it makes of them is said here without that order.

* `Entry.IsBranch`, `Entry.IsLeaf` — the settings that go together.
* `Entry.Describes` — the type that an entry describes behind other types. The kinds in its grammar
  stand for types before it.
* `Entry.Shaped` — the entries that are legal behind entries of given kinds.

The two views meet in `Entry.build_eq_ok_iff`: behind types that are accepted by themselves, an
entry is built exactly if it describes a type and lists no kind twice. A legal entry describes a
type (`Entry.Shaped.exists_describes`), which is free of faults if the entry has a proper and new
name (`Entry.Describes.fault?_eq_none`): all kinds in its grammar are earlier ones, so that the new
one is not among them. Conversely an entry that describes a type without a fault is legal
(`Entry.Describes.shaped`).
-/

namespace InlineMarkup
namespace Entry

/-! ### Settings that go together -/

/-- The delimiters that an entry sets, one for both ends or one for each. -/
def Delimited (e : Entry) (start stop : String) : Prop :=
  e.surround = some start ∧ e.start = none ∧ e.stop = none ∧ stop = start ∨
    e.surround = none ∧ e.start = some start ∧ e.stop = some stop

/-- **Settings of a branch.** It has delimiters, is not measured, and does not have both plain text
and a grammar inside. -/
structure IsBranch (e : Entry) (start stop : String) : Prop where
  delimited : e.Delimited start stop
  pattern : e.pattern = none
  literals : e.literals = none
  interior : e.grammar = none ∨ e.verbatim = false

/-- **Settings of a leaf.** Nothing is said of delimiters or an interior, and it is measured by a
pattern or by words, not both. -/
structure IsLeaf (e : Entry) : Prop where
  surround : e.surround = none
  start : e.start = none
  stop : e.stop = none
  grammar : e.grammar = none
  verbatim : e.verbatim = false
  measured : e.pattern = none ∨ e.literals = none

/-- **A legal entry** behind entries of the kinds `earlier`, whatever its own kind is. -/
inductive Shaped (earlier : List String) (e : Entry) : Prop where
  | branch {start stop : String} (settings : e.IsBranch start stop) (start_ne : start ≠ "")
      (stop_ne : stop ≠ "")
      (listed : ∀ kinds, e.grammar = some kinds → kinds.Nodup ∧ ∀ k ∈ kinds, k ∈ earlier)
  | leaf (settings : e.IsLeaf)
      (accepted : ∀ p, e.pattern = some p → ∃ c, Constraint.ofPattern? p = some c)

/-! ### What an entry describes -/

/-- The interior of the branch that an entry describes: the one around it, plain text, or the types
of the listed kinds, which are `earlier` ones and in the order of the list. -/
inductive Interior (earlier : List TokenType) (e : Entry) : Option Grammar → Prop where
  | around : e.grammar = none → e.verbatim = false → Interior earlier e none
  | verbatim : e.grammar = none → e.verbatim = true → Interior earlier e (some [])
  | listed {g : Grammar} : e.grammar = some (g.map TokenType.kind) → e.verbatim = false →
      (∀ u ∈ g, u ∈ earlier) → Interior earlier e (some g)

/-- The constraint of the leaf that an entry describes: none, that of its pattern, or its words. -/
inductive Measure (e : Entry) : Option Constraint → Prop where
  | single : e.pattern = none → e.literals = none → Measure e none
  | pattern {p : String} {c : Constraint} : e.pattern = some p → Constraint.ofPattern? p = some c →
      Measure e (some c)
  | words {ws : List String} : e.literals = some ws → Measure e (some (.literals ws))

/-- **The type that an entry describes** behind the types `earlier`. -/
inductive Describes (earlier : List TokenType) (e : Entry) : TokenType → Prop where
  | branch {start stop : String} {inner : Option Grammar} : e.IsBranch start stop →
      Interior earlier e inner → Describes earlier e (.branch e.kind start stop inner)
  | leaf {c : Option Constraint} : e.IsLeaf → Measure e c → Describes earlier e (.leaf e.kind c)

variable {declared earlier : List TokenType} {e : Entry} {t : TokenType} {start stop : String}

/-! ### Building one entry -/

theorem Delimited.unique {start' stop' : String} (h : e.Delimited start stop)
    (h' : e.Delimited start' stop') : start' = start ∧ stop' = stop := by
  unfold Delimited at h h'
  grind

theorem delimiters_eq_some_iff :
    e.delimiters = .ok (some (start, stop)) ↔ e.Delimited start stop := by
  unfold delimiters Delimited
  cases e.surround <;> cases e.start <;> cases e.stop <;> grind

theorem delimiters_eq_none_iff :
    e.delimiters = .ok none ↔ e.surround = none ∧ e.start = none ∧ e.stop = none := by
  unfold delimiters
  cases e.surround <;> cases e.start <;> cases e.stop <;> simp

/-- The types found one by one are the declared ones of the given kinds. -/
theorem forall₂_own?_iff (hdistinct : (declared.map TokenType.kind).Nodup) {kinds : List String}
    {g : Grammar} :
    List.Forall₂ (fun kind t => Grammar.own? kind declared = some t) kinds g ↔
      g.map TokenType.kind = kinds ∧ ∀ u ∈ g, u ∈ declared := by
  induction kinds generalizing g with
  | nil => cases g <;> simp
  | cons kind kinds ih =>
    cases g with
    | nil => simp
    | cons t g =>
      rw [List.forall₂_cons, ih, Grammar.own?_eq_some_iff hdistinct, List.map_cons,
        List.cons.injEq, List.forall_mem_cons]
      tauto

/-- The kinds listed for an interior are found if they are those of earlier types, and the types
found are a grammar unless a kind is listed twice. -/
theorem resolve_eq_ok_iff (haccepted : Grammar.ofTypes declared = .ok declared) {kind : String}
    {kinds : List String} {g : Grammar} :
    resolve kind declared kinds = .ok g ↔
      (g.map TokenType.kind = kinds ∧ ∀ u ∈ g, u ∈ declared) ∧ kinds.Nodup := by
  obtain ⟨-, hfaultless, hdistinct⟩ := Grammar.ofTypes_eq_ok_iff.mp haccepted
  unfold resolve
  simp only [bind_eq_ok, mapError_eq_ok, mapM_eq_ok_iff]
  rw [← forall₂_own?_iff hdistinct]
  constructor
  · rintro ⟨types, hfound, hinner⟩
    obtain ⟨rfl, -, hnodup⟩ := Grammar.ofTypes_eq_ok_iff.mp hinner
    -- a kind that is found is not reported as unknown
    have hown : List.Forall₂ (fun kind t => Grammar.own? kind declared = some t) kinds types := by
      refine hfound.imp fun reference t ht => ?_
      split at ht
      · cases ht
        assumption
      · cases ht
    rw [((forall₂_own?_iff hdistinct).mp hown).1] at hnodup
    exact ⟨hown, hnodup⟩
  · rintro ⟨hown, hnodup⟩
    obtain ⟨hkinds, hdeclared⟩ := (forall₂_own?_iff hdistinct).mp hown
    refine ⟨g, hown.imp fun reference t ht => by rw [ht], ?_⟩
    -- the types found have no faults, being declared ones
    exact Grammar.ofTypes_eq_ok_iff.mpr
      ⟨rfl, fun t ht => hfaultless t (hdeclared t ht), by rwa [hkinds]⟩

theorem Interior.settings {inner : Option Grammar} (h : Interior earlier e inner) :
    e.grammar = none ∨ e.verbatim = false := by
  rcases h with ⟨hgrammar, -⟩ | ⟨hgrammar, -⟩ | ⟨-, hverbatim, -⟩
  · exact .inl hgrammar
  · exact .inl hgrammar
  · exact .inr hverbatim

theorem interior_iff_of_none (hgrammar : e.grammar = none) {inner : Option Grammar} :
    Interior earlier e inner ↔ inner = if e.verbatim then some [] else none := by
  constructor
  · rintro (⟨-, hverbatim⟩ | ⟨-, hverbatim⟩ | ⟨hlisted, -⟩)
    · simp [hverbatim]
    · simp [hverbatim]
    · cases hgrammar.symm.trans hlisted
  · rintro rfl
    cases hverbatim : e.verbatim with
    | false => exact .around hgrammar hverbatim
    | true => exact .verbatim hgrammar hverbatim

theorem interior_iff_of_some {kinds : List String} (hgrammar : e.grammar = some kinds)
    {inner : Option Grammar} :
    Interior earlier e inner ↔ e.verbatim = false ∧
      ∃ g, inner = some g ∧ g.map TokenType.kind = kinds ∧ ∀ u ∈ g, u ∈ earlier := by
  constructor
  · rintro (⟨h, -⟩ | ⟨h, -⟩ | ⟨hlisted, hverbatim, hearlier⟩)
    · cases hgrammar.symm.trans h
    · cases hgrammar.symm.trans h
    · cases hgrammar.symm.trans hlisted
      exact ⟨hverbatim, _, rfl, rfl, hearlier⟩
  · rintro ⟨hverbatim, g, rfl, rfl, hearlier⟩
    exact .listed hgrammar hverbatim hearlier

theorem buildBranch_eq_ok_iff (haccepted : Grammar.ofTypes declared = .ok declared) :
    e.buildBranch declared start stop = .ok t ↔
      (e.pattern = none ∧ e.literals = none) ∧ (∀ kinds, e.grammar = some kinds → kinds.Nodup) ∧
        ∃ inner, Interior declared e inner ∧ t = .branch e.kind start stop inner := by
  unfold buildBranch
  dsimp only
  by_cases hmeasured : e.pattern.isSome ∨ e.literals.isSome
  · -- a pattern or words are refused before the interior is looked at
    have hnot : ¬ (e.pattern = none ∧ e.literals = none) := by
      rintro ⟨hpattern, hliterals⟩
      simp [hpattern, hliterals] at hmeasured
    simp [if_pos hmeasured, hnot]
  · have hplain : e.pattern = none ∧ e.literals = none := by
      simpa [Option.isSome_iff_ne_none] using hmeasured
    rw [if_neg hmeasured, and_iff_right hplain]
    cases hgrammar : e.grammar with
    | none =>
      simp only [interior_iff_of_none hgrammar, exists_eq_left]
      cases e.verbatim <;> simp [TokenType.delimited, TokenType.withGrammar, eq_comm]
    | some kinds =>
      simp only [interior_iff_of_some hgrammar]
      cases e.verbatim with
      | true => simp
      | false =>
        simp only [map_eq_ok, resolve_eq_ok_iff haccepted]
        -- the one interior that can fail to be built is a list of kinds
        constructor
        · rintro ⟨g, ⟨hlisted, hnodup⟩, rfl⟩
          refine ⟨?_, some g, ⟨trivial, g, rfl, hlisted⟩, rfl⟩
          rintro _ ⟨⟩
          exact hnodup
        · rintro ⟨hnodup, _, ⟨-, g, rfl, hlisted⟩, rfl⟩
          exact ⟨g, ⟨hlisted, hnodup kinds rfl⟩, rfl⟩

theorem buildLeaf_eq_ok_iff :
    e.buildLeaf = .ok t ↔ (e.grammar = none ∧ e.verbatim = false) ∧
      (e.pattern = none ∨ e.literals = none) ∧ ∃ c, Measure e c ∧ t = .leaf e.kind c := by
  unfold buildLeaf
  constructor
  · intro hbuild
    -- the ways through the tests that do not end in an error: a pattern, words, or neither
    split at hbuild
    · cases hbuild
    · next hinterior =>
      have hplain : e.grammar = none ∧ e.verbatim = false := by
        simpa [Option.isSome_iff_ne_none] using hinterior
      split at hbuild
      · next p hpattern hliterals =>
        split at hbuild
        · next c hc =>
          cases hbuild
          exact ⟨hplain, .inr hliterals, some c, .pattern hpattern hc, rfl⟩
        · cases hbuild
      · next ws hpattern hliterals =>
        cases hbuild
        exact ⟨hplain, .inl hpattern, _, .words hliterals, rfl⟩
      · next hpattern hliterals =>
        cases hbuild
        exact ⟨hplain, .inl hpattern, none, .single hpattern hliterals, rfl⟩
      · cases hbuild
  · -- with a pattern there are no words, and the other way round, so the tests are passed
    rintro ⟨⟨hgrammar, hverbatim⟩, hmeasured, c, hmeasure, rfl⟩
    have hinterior : ¬ (e.grammar.isSome ∨ e.verbatim) := by simp [hgrammar, hverbatim]
    rw [if_neg hinterior]
    cases hmeasure with
    | single hpattern hliterals => simp only [hpattern, hliterals, TokenType.plain]
    | pattern hpattern hc =>
      have hliterals := hmeasured.resolve_left (by simp [hpattern])
      simp only [hpattern, hliterals, hc, TokenType.constrained]
    | words hliterals =>
      have hpattern := hmeasured.resolve_right (by simp [hliterals])
      simp only [hpattern, hliterals, TokenType.constrained]

/-- **Building one entry.** Behind an accepted list of types an entry is built to the type that it
describes, unless it lists a kind twice. -/
theorem build_eq_ok_iff (haccepted : Grammar.ofTypes declared = .ok declared) :
    e.build declared = .ok t ↔
      e.Describes declared t ∧ ∀ kinds, e.grammar = some kinds → kinds.Nodup := by
  constructor
  · intro hbuild
    unfold build at hbuild
    split at hbuild
    · cases hbuild
    · -- with delimiters it is built to a branch
      next start stop hends =>
      obtain ⟨⟨hpattern, hliterals⟩, hnodup, inner, hinner, rfl⟩ :=
        (buildBranch_eq_ok_iff haccepted).mp hbuild
      have hdelimited := delimiters_eq_some_iff.mp hends
      exact ⟨.branch ⟨hdelimited, hpattern, hliterals, hinner.settings⟩ hinner, hnodup⟩
    · -- without delimiters the entry is built to a leaf
      next hends =>
      obtain ⟨⟨hgrammar, hverbatim⟩, hmeasured, c, hmeasure, rfl⟩ := buildLeaf_eq_ok_iff.mp hbuild
      obtain ⟨hsurround, hstart, hstop⟩ := delimiters_eq_none_iff.mp hends
      refine ⟨.leaf ⟨hsurround, hstart, hstop, hgrammar, hverbatim, hmeasured⟩ hmeasure, ?_⟩
      simp [hgrammar]
  · rintro ⟨hdescribes, hnodup⟩
    unfold build
    cases hdescribes with
    | branch hbranch hinner =>
      rw [delimiters_eq_some_iff.mpr hbranch.delimited]
      exact (buildBranch_eq_ok_iff haccepted).mpr
        ⟨⟨hbranch.pattern, hbranch.literals⟩, hnodup, _, hinner, rfl⟩
    | leaf hleaf hmeasure =>
      rw [delimiters_eq_none_iff.mpr ⟨hleaf.surround, hleaf.start, hleaf.stop⟩]
      exact buildLeaf_eq_ok_iff.mpr
        ⟨⟨hleaf.grammar, hleaf.verbatim⟩, hleaf.measured, _, hmeasure, rfl⟩

/-! ### Legal and described -/

theorem Describes.kind_eq (h : e.Describes earlier t) : t.kind = e.kind := by
  cases h <;> rfl

theorem IsLeaf.not_delimited (h : e.IsLeaf) : ¬ e.Delimited start stop := by
  rintro (⟨hsurround, -⟩ | ⟨-, hstart, -⟩)
  · cases h.surround.symm.trans hsurround
  · cases h.start.symm.trans hstart

/-- There are types to any kinds of earlier types. -/
theorem exists_listed {kinds : List String} (h : ∀ k ∈ kinds, k ∈ earlier.map TokenType.kind) :
    ∃ g : List TokenType, g.map TokenType.kind = kinds ∧ ∀ u ∈ g, u ∈ earlier := by
  induction kinds with
  | nil => exact ⟨[], rfl, by simp⟩
  | cons k ks ih =>
    rw [List.forall_mem_cons] at h
    obtain ⟨u, hu, rfl⟩ := List.mem_map.mp h.1
    obtain ⟨g, rfl, hg⟩ := ih h.2
    exact ⟨u :: g, rfl, List.forall_mem_cons.mpr ⟨hu, hg⟩⟩

/-- **A legal entry describes a type,** whatever the earlier types of those kinds are. -/
theorem Shaped.exists_describes (h : e.Shaped (earlier.map TokenType.kind)) :
    ∃ t, e.Describes earlier t := by
  cases h with
  | branch hbranch _ _ hlisted =>
    -- the one thing still to be found is the interior
    suffices h : ∃ inner, Interior earlier e inner by
      obtain ⟨inner, hinner⟩ := h
      exact ⟨_, .branch hbranch hinner⟩
    cases hgrammar : e.grammar with
    | none => exact ⟨_, (interior_iff_of_none hgrammar).mpr rfl⟩
    | some kinds =>
      obtain ⟨-, hearlier⟩ := hlisted kinds hgrammar
      have hverbatim : e.verbatim = false := hbranch.interior.resolve_left (by simp [hgrammar])
      obtain ⟨g, rfl, hg⟩ := exists_listed hearlier
      exact ⟨some g, .listed hgrammar hverbatim hg⟩
  | leaf hleaf haccepted =>
    -- a leaf has at most one of the two constraints
    suffices h : ∃ c, Measure e c by
      obtain ⟨c, hmeasure⟩ := h
      exact ⟨_, .leaf hleaf hmeasure⟩
    cases hpattern : e.pattern with
    | some p =>
      obtain ⟨c, hc⟩ := haccepted p hpattern
      exact ⟨some c, .pattern hpattern hc⟩
    | none =>
      cases hliterals : e.literals with
      | some ws => exact ⟨_, .words hliterals⟩
      | none => exact ⟨none, .single hpattern hliterals⟩

/-- The type that a legal entry describes is free of faults, if the entry's kind is a proper one and
new. -/
theorem Describes.fault?_eq_none (h : e.Describes earlier t)
    (hnamed : e.kind ≠ "" ∧ e.kind ≠ wordKind)
    (hshaped : e.Shaped (earlier.map TokenType.kind)) (hnew : e.kind ∉ earlier.map TokenType.kind) :
    t.fault? = none := by
  rw [TokenType.fault?_eq_none_iff, h.kind_eq]
  refine ⟨hnamed.1, hnamed.2, ?_⟩
  rintro _ start stop inner rfl
  -- only a branch has delimiters and an interior to be checked
  rcases h with ⟨hbranch, hinner⟩ | -
  cases hshaped with
  | leaf hleaf _ => exact absurd hbranch.delimited hleaf.not_delimited
  | branch hbranch' hstart hstop _ =>
    obtain ⟨rfl, rfl⟩ := hbranch'.delimited.unique hbranch.delimited
    refine ⟨hstart, hstop, fun u hu => ?_⟩
    rcases hinner with - | - | ⟨-, -, hearlier⟩
    · simp at hu
    · simp at hu
    · -- the listed types are earlier ones, and the kind is none of theirs
      intro hkind
      exact hnew (hkind ▸ List.mem_map_of_mem (hearlier u hu))

/-- An entry that describes a type without a fault is legal, unless it lists a kind twice. -/
theorem Describes.shaped (h : e.Describes earlier t) (hfault : t.fault? = none)
    (honce : ∀ kinds, e.grammar = some kinds → kinds.Nodup) :
    e.Shaped (earlier.map TokenType.kind) := by
  obtain ⟨-, -, hmarks⟩ := TokenType.fault?_eq_none_iff.mp hfault
  cases h with
  | branch hbranch hinner =>
    -- what is found for the kinds that are listed are earlier types
    obtain ⟨hstart, hstop, -⟩ := hmarks _ _ _ _ rfl
    refine .branch hbranch hstart hstop fun kinds hgrammar => ⟨honce kinds hgrammar, ?_⟩
    obtain ⟨-, g, -, rfl, hearlier⟩ := (interior_iff_of_some hgrammar).mp hinner
    exact List.map_subset _ hearlier
  | leaf hleaf hmeasure =>
    -- of the three constraints only that of the pattern goes with one
    refine .leaf hleaf fun p hpattern => ?_
    rcases hmeasure with ⟨h, -⟩ | ⟨h, hc⟩ | h
    · cases h.symm.trans hpattern
    · cases h.symm.trans hpattern
      exact ⟨_, hc⟩
    · have hliterals := hleaf.measured.resolve_left (by simp [hpattern])
      cases h.symm.trans hliterals

end Entry
end InlineMarkup
