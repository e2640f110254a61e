import InlineMarkup.Settings
import InlineMarkup.Proofs.Settings.Description

/-!
# The settings that are accepted

Whether entries give a grammar is decided in three places: where an entry is built, where the types
inside a branch are checked, and where those of all entries are. This module says without that order
which lists of entries come through and what becomes of them.

* `Entry.InTurn` — types that belong to entries one after the other, each with the types before it
  in sight. Building all entries is such a succession (`Entry.buildAll_eq_ok_iff`), and it ends with
  the first entry that cannot be built (`Entry.buildAll_eq_error_iff`).
* `Entry.Legal` — **legality** of a list of entries, in terms of what is set in them.
* `Settings.grammar_accepts` — legal entries and no others give a grammar, made of the types that
  they describe; and where an error comes from otherwise.

What building makes of types that are not accepted need not be asked. If a grammar comes out, the
types in front of each entry are accepted because the whole list is (`Entry.legal_of_builds`). If
the entries are legal, the types that they describe are accepted first, and then seen to be what the
entries are built to (`Entry.Legal.builds`).
-/

namespace InlineMarkup
namespace Entry

variable {declared : List TokenType} {e : Entry} {t : TokenType}

/-! ### Legality -/

/-- **Legal entries.** Their kinds are not empty, not reserved and distinct, and each entry is legal
behind those before it. -/
structure Legal (es : List Entry) : Prop where
  named : ∀ e ∈ es, e.kind ≠ "" ∧ e.kind ≠ wordKind
  distinct : (es.map Entry.kind).Nodup
  shaped : ∀ front e back, es = front ++ e :: back → e.Shaped (front.map Entry.kind)

/-! ### Building all entries -/

/-- The type that an entry is built to behind the types `earlier`. -/
def Builds (earlier : List TokenType) (e : Entry) (t : TokenType) : Prop :=
  e.build earlier = .ok t

/-- **Types of entries in turn.** Each type is related to its entry by `R`, which sees the types
that are there already: those of the entries in front of it, behind the `declared` ones. -/
inductive InTurn (R : List TokenType → Entry → TokenType → Prop) :
    List TokenType → List Entry → List TokenType → Prop where
  | nil {declared : List TokenType} : InTurn R declared [] []
  | cons {declared ts : List TokenType} {e : Entry} {es : List Entry} {t : TokenType} :
      R declared e t → InTurn R (declared ++ [t]) es ts → InTurn R declared (e :: es) (t :: ts)

variable {R S : List TokenType → Entry → TokenType → Prop} {es : List Entry}
  {ts types : List TokenType}

/-- **Building all entries** adds the types that they are built to in turn. -/
theorem buildAll_eq_ok_iff :
    buildAll declared es = .ok types ↔
      ∃ ts, types = declared ++ ts ∧ InTurn Builds declared es ts := by
  -- each step adds a type to those declared, so these are left open
  induction es generalizing declared with
  | nil =>
    constructor
    · rintro ⟨⟩
      exact ⟨[], by simp, .nil⟩
    · rintro ⟨ts, rfl, ⟨⟩⟩
      simp [buildAll]
  | cons e es ih =>
    rw [buildAll]
    cases hbuild : e.build declared with
    | error err =>
      -- one that cannot be built ends it
      simp only [reduceCtorEq, false_iff]
      rintro ⟨ts, -, hturn⟩
      cases hturn with
      | cons hbuilds _ => cases hbuild.symm.trans hbuilds
    | ok t =>
      rw [ih]
      constructor
      · rintro ⟨ts, rfl, hturn⟩
        exact ⟨t :: ts, by simp, .cons hbuild hturn⟩
      · rintro ⟨ts, rfl, hturn⟩
        cases hturn with
        | cons hbuilds hturn =>
          cases hbuild.symm.trans hbuilds
          exact ⟨_, by simp, hturn⟩

/-- **The first entry that cannot be built** gives the error. -/
theorem buildAll_eq_error_iff {err : BuildError} :
    buildAll declared es = .error err ↔ ∃ front e back us, es = front ++ e :: back ∧
      InTurn Builds declared front us ∧ e.build (declared ++ us) = .error err := by
  induction es generalizing declared with
  | nil => simp [buildAll]
  | cons e es ih =>
    rw [buildAll]
    cases hbuild : e.build declared with
    | error err' =>
      constructor
      · -- this entry is the first one
        rintro ⟨⟩
        exact ⟨[], e, es, [], rfl, .nil, by simpa using hbuild⟩
      · rintro ⟨front, e', back, us, hes, hturn, herr⟩
        -- no entry can be built in front of the failing one
        cases hturn with
        | nil =>
          cases hes
          rw [List.append_nil] at herr
          exact congrArg _ (Except.error.inj (hbuild.symm.trans herr))
        | cons hbuilds _ =>
          cases hes
          cases hbuild.symm.trans hbuilds
    | ok t =>
      rw [ih]
      constructor
      · rintro ⟨front, e', back, us, rfl, hturn, herr⟩
        exact ⟨e :: front, e', back, t :: us, rfl, .cons hbuild hturn, by simpa using herr⟩
      · rintro ⟨front, e', back, us, hes, hturn, herr⟩
        -- the failing entry is a later one, the first one being built
        cases hturn with
        | nil =>
          cases hes
          rw [List.append_nil] at herr
          cases hbuild.symm.trans herr
        | cons hbuilds hturn =>
          cases hes
          cases hbuild.symm.trans hbuilds
          exact ⟨_, e', back, _, rfl, hturn, by simpa using herr⟩

namespace InTurn

/-- An entry of the list stands for a type behind those of the entries in front of it. -/
theorem split {front back : List Entry} (h : InTurn R declared (front ++ e :: back) ts) :
    ∃ us t vs, ts = us ++ t :: vs ∧ InTurn R declared front us ∧ R (declared ++ us) e t := by
  induction front generalizing declared ts with
  | nil =>
    cases h with
    | cons hR _ => exact ⟨[], _, _, rfl, .nil, by simpa using hR⟩
  | cons e' front ih =>
    -- the entry stands in the rest, behind one type more
    cases h with
    | @cons _ _ _ _ t' hR hturn =>
      obtain ⟨us, t, vs, rfl, hfront, hlast⟩ := ih hturn
      exact ⟨t' :: us, t, vs, rfl, .cons hR hfront, by simpa using hlast⟩

/-- A relation may be exchanged for one that follows from it at each place of the two lists. -/
theorem imp_at (h : InTurn R declared es ts) :
    (∀ front e back us t vs, es = front ++ e :: back → ts = us ++ t :: vs →
      InTurn R declared front us → R (declared ++ us) e t → S (declared ++ us) e t) →
    InTurn S declared es ts := by
  induction h with
  | nil => exact fun _ => .nil
  | @cons declared ts e es t hR hturn ih =>
    intro himp
    refine .cons ?_ (ih ?_)
    · -- the head has nothing in front
      simpa using himp [] e es [] t ts rfl rfl .nil (by simpa using hR)
    · -- a place of the rest is one of the whole, with the head in front
      intro front e' back us t' vs hes hts hfront hR'
      have hplace := himp (e :: front) e' back (t :: us) t' vs (by rw [hes]; rfl) (by rw [hts]; rfl)
        (.cons hR hfront)
      simpa using hplace (by simpa using hR')

theorem imp (h : InTurn R declared es ts) (himp : ∀ earlier e t, R earlier e t → S earlier e t) :
    InTurn S declared es ts :=
  h.imp_at fun _ _ _ _ _ _ _ _ _ => himp _ _ _

theorem kinds_eq (h : InTurn R declared es ts)
    (hkind : ∀ earlier e t, R earlier e t → t.kind = e.kind) :
    ts.map TokenType.kind = es.map Entry.kind := by
  induction h with
  | nil => rfl
  | cons hR _ ih => rw [List.map_cons, List.map_cons, ih, hkind _ _ _ hR]

theorem length_eq (h : InTurn R declared es ts) : ts.length = es.length := by
  induction h with
  | nil => rfl
  | cons _ _ ih => rw [List.length_cons, List.length_cons, ih]

theorem forall_mem {P : TokenType → Prop} (h : InTurn R declared es ts)
    (hP : ∀ earlier e t, R earlier e t → P t) : ∀ t ∈ ts, P t := by
  induction h with
  | nil => exact fun _ => nofun
  | cons hR _ ih => exact List.forall_mem_cons.mpr ⟨hP _ _ _ hR, ih⟩

end InTurn

/-! ### Legal entries and grammars -/

variable {g : Grammar}

/-- What entries are built to is what building them all gives. -/
theorem inTurn_builds_iff : InTurn Builds [] es types ↔ buildAll [] es = .ok types := by
  simp only [buildAll_eq_ok_iff, List.nil_append, exists_eq_left']

theorem InTurn.kinds_of_describes (h : InTurn Describes declared es ts) :
    ts.map TokenType.kind = es.map Entry.kind :=
  h.kinds_eq fun _ _ _ h => h.kind_eq

/-- **Entries that give a grammar are legal,** and the types of the grammar are those that they
describe. -/
theorem legal_of_builds (hbuilds : InTurn Builds [] es g) (haccepted : Grammar.ofTypes g = .ok g) :
    Legal es ∧ InTurn Describes [] es g := by
  obtain ⟨-, hfaultless, hdistinct⟩ := Grammar.ofTypes_eq_ok_iff.mp haccepted
  -- the types in front of an entry are accepted, so that what it is built to can be told
  have hturn : InTurn (fun earlier e t =>
      e.Describes earlier t ∧ e.Shaped (earlier.map TokenType.kind)) [] es g := by
    refine hbuilds.imp_at fun front e back us t vs _ hg _ hbuild => ?_
    subst hg
    obtain ⟨hdescribes, honce⟩ := (build_eq_ok_iff (Grammar.accepted_of_append haccepted)).mp hbuild
    have hfault := hfaultless t (List.mem_append_right _ List.mem_cons_self)
    exact ⟨hdescribes, hdescribes.shaped hfault honce⟩
  have hdescribed : InTurn Describes [] es g := hturn.imp fun _ _ _ h => h.1
  have hkinds := hdescribed.kinds_of_describes
  refine ⟨⟨?_, hkinds ▸ hdistinct, ?_⟩, hdescribed⟩
  · -- the name of an entry is that of a type, which has been checked
    intro e he
    have hkind : e.kind ∈ g.map TokenType.kind := hkinds ▸ List.mem_map_of_mem he
    obtain ⟨t, ht, hte⟩ := List.mem_map.mp hkind
    obtain ⟨hempty, hword, -⟩ := TokenType.fault?_eq_none_iff.mp (hfaultless t ht)
    rw [hte] at hempty hword
    exact ⟨hempty, hword⟩
  · -- the types in front of an entry have the kinds of the entries there
    rintro front e back rfl
    obtain ⟨us, t, vs, -, hfront, -, hshaped⟩ := hturn.split
    rwa [List.nil_append, hfront.kinds_eq fun _ _ _ h => h.1.kind_eq] at hshaped

/-- **Legal entries describe types,** one after the other. -/
theorem Legal.exists_describes (h : Legal es) : ∃ g, InTurn Describes [] es g := by
  -- behind any types that have the kinds of the entries in front
  suffices hbehind : ∀ (es : List Entry) (declared : List TokenType),
      (∀ front e back, es = front ++ e :: back →
        e.Shaped (declared.map TokenType.kind ++ front.map Entry.kind)) →
      ∃ g, InTurn Describes declared es g by
    exact hbehind es [] h.shaped
  intro es
  induction es with
  | nil => exact fun _ _ => ⟨[], .nil⟩
  | cons e es ih =>
    intro declared hshaped
    have hfirst := hshaped [] e es rfl
    rw [List.map_nil, List.append_nil] at hfirst
    -- what the first entry describes counts as declared for the others
    obtain ⟨t, ht⟩ := hfirst.exists_describes
    obtain ⟨g, hg⟩ := ih (declared ++ [t]) fun front e' back hes => by
      have hrest := hshaped (e :: front) e' back (by rw [hes]; rfl)
      simpa [ht.kind_eq] using hrest
    exact ⟨t :: g, .cons ht hg⟩

/-- **The types that legal entries describe** are accepted, and they are what the entries are built
to. -/
theorem Legal.builds (h : Legal es) (hdescribed : InTurn Describes [] es g) :
    Grammar.ofTypes g = .ok g ∧ InTurn Builds [] es g := by
  have hfaultless : InTurn (fun _ _ t => t.fault? = none) [] es g := by
    refine hdescribed.imp_at fun front e back us t vs hes _ hfront hdescribes => ?_
    have hkinds := hfront.kinds_of_describes
    have hmem : e ∈ es := by simp [hes]
    refine hdescribes.fault?_eq_none (h.named e hmem) ?_ ?_
    · -- it is legal behind the types that the entries in front describe
      rw [List.nil_append, hkinds]
      exact h.shaped front e back hes
    · -- the kind of an entry is not among those in front of it
      have hdistinct := h.distinct
      rw [hes, List.map_append, List.map_cons] at hdistinct
      rw [List.nil_append, hkinds]
      exact (List.nodup_middle.mp hdistinct).notMem ∘ List.mem_append_left _
  have haccepted : Grammar.ofTypes g = .ok g :=
    Grammar.ofTypes_eq_ok_iff.mpr ⟨rfl, hfaultless.forall_mem fun _ _ _ h => h,
      hdescribed.kinds_of_describes ▸ h.distinct⟩
  -- now that all types are known to be accepted, so are those in front of each entry
  refine ⟨haccepted, hdescribed.imp_at fun front e back us t vs hes hg _ hdescribes => ?_⟩
  subst hg
  refine (build_eq_ok_iff (Grammar.accepted_of_append haccepted)).mpr ⟨hdescribes, ?_⟩
  intro kinds hgrammar
  -- a kind listed twice would keep the entry from being built
  cases h.shaped front e back hes with
  | branch _ _ _ hlisted => exact (hlisted kinds hgrammar).1
  | leaf hleaf _ => cases hleaf.grammar.symm.trans hgrammar

end Entry

namespace Settings

variable {s : Settings} {g : Grammar} {err : BuildError}

theorem grammar_eq_ok_iff :
    s.grammar.1 = .ok g ↔
      Entry.InTurn Entry.Builds [] s.entries g ∧ Grammar.ofTypes g = .ok g := by
  rw [Entry.inTurn_builds_iff, grammar]
  cases Entry.buildAll [] s.entries with
  | error err => simp
  | ok types =>
    simp only [mapError_eq_ok, Except.ok.injEq]
    constructor
    · intro haccepted
      obtain ⟨rfl, -⟩ := Grammar.ofTypes_eq_ok_iff.mp haccepted
      exact ⟨rfl, haccepted⟩
    · rintro ⟨rfl, haccepted⟩
      exact haccepted

theorem grammar_eq_error_iff :
    s.grammar.1 = .error err ↔ Entry.buildAll [] s.entries = .error err ∨
      ∃ types fault, Entry.InTurn Entry.Builds [] s.entries types ∧
        Grammar.ofTypes types = .error fault ∧ err = .grammar fault := by
  simp only [Entry.inTurn_builds_iff, grammar]
  cases Entry.buildAll [] s.entries with
  | error err' => simp
  | ok types => simp [mapError_eq_error]

/-- **The record of building** is made if all entries are built, and else none is. -/
theorem grammar_records (s : Settings) :
    (s.grammar.2 = [.typesBuilt s.entries.length] ↔
        ∃ types, Entry.InTurn Entry.Builds [] s.entries types) ∧
      (s.grammar.2 = [] ↔ ¬ ∃ types, Entry.InTurn Entry.Builds [] s.entries types) := by
  simp only [Entry.inTurn_builds_iff, grammar]
  cases hbuild : Entry.buildAll [] s.entries with
  | error err => simp
  | ok types =>
    have hlength : types.length = s.entries.length :=
      (Entry.inTurn_builds_iff.mpr hbuild).length_eq
    simp [hlength]

/-- **The settings that are accepted.** They give a grammar exactly if the entries are legal, and it
is made of the types that the entries describe. Otherwise the error is that of the first entry that
cannot be built, or, if all can, the one of checking their types; the record of building is made
exactly in the latter case and where there is no error. -/
theorem grammar_accepts (s : Settings) :
    ((∃ g, s.grammar.1 = .ok g) ↔ Entry.Legal s.entries) ∧
      (∀ g, s.grammar.1 = .ok g ↔
        Entry.Legal s.entries ∧ Entry.InTurn Entry.Describes [] s.entries g) ∧
      (∀ err, s.grammar.1 = .error err ↔
        (∃ front e back us, s.entries = front ++ e :: back ∧
          Entry.InTurn Entry.Builds [] front us ∧ e.build us = .error err) ∨
        ∃ types fault, Entry.InTurn Entry.Builds [] s.entries types ∧
          Grammar.ofTypes types = .error fault ∧ err = .grammar fault) ∧
      (s.grammar.2 = [.typesBuilt s.entries.length] ↔
        ∃ types, Entry.InTurn Entry.Builds [] s.entries types) ∧
      (s.grammar.2 = [] ↔ ¬ ∃ types, Entry.InTurn Entry.Builds [] s.entries types) := by
  have hok (g : Grammar) : s.grammar.1 = .ok g ↔
      Entry.Legal s.entries ∧ Entry.InTurn Entry.Describes [] s.entries g := by
    rw [grammar_eq_ok_iff]
    constructor
    · rintro ⟨hbuilds, haccepted⟩
      exact Entry.legal_of_builds hbuilds haccepted
    · rintro ⟨hlegal, hdescribed⟩
      exact (hlegal.builds hdescribed).symm
  -- entries that are legal describe types, so that the first part follows from the second
  refine ⟨?_, hok, fun err => ?_, grammar_records s⟩
  · simp only [hok, exists_and_left, and_iff_left_iff_imp]
    exact Entry.Legal.exists_describes
  · rw [grammar_eq_error_iff, Entry.buildAll_eq_error_iff]
    simp only [List.nil_append]

/-- Sums, which know of the signs and numbers before them, and code. -/
def sums : Settings where
  maxDepth := 64
  entries :=
    [{ kind := "number" },
     { kind := "sign", literals := some ["+", "-"] },
     { kind := "sum", start := some "(", stop := some ")", grammar := some ["sign", "number"] },
     { kind := "code", surround := some "`", verbatim := true }]

theorem grammar_accepts_sums :
    Entry.Legal sums.entries ∧ Entry.InTurn Entry.Describes [] sums.entries
      [.leaf "number" none, .leaf "sign" (some (.literals ["+", "-"])),
       .branch "sum" "(" ")"
         (some [.leaf "sign" (some (.literals ["+", "-"])), .leaf "number" none]),
       .branch "code" "`" "`" (some [])] :=
  ((grammar_accepts sums).2.1 _).mp rfl

/-- The same entries from last to first: the sum refers to what comes after it. -/
example : Settings.grammar { maxDepth := 64, entries := sums.entries.reverse } =
    (.error (.unknownKind "sum" "sign"), []) := rfl

end Settings
end InlineMarkup
