import InlineMarkup.Proofs.Settings.Slices

/-!
# Kinds in a grammar from settings

The grammar of an entry names kinds of entries before it, and what it gets for them are the types of
these entries, copied. Those types may be branches with grammars of their own, copied before. Still
a kind stands for one type throughout, however deep a copy stands: it is the type of that kind in
the whole grammar.

* `Grammar.Holds` — the types of a grammar at each depth of nesting.
* `Grammar.Ordered` — the grammar of a branch is made of types in front of the branch. So going
  inside goes to the front, and that cannot go on for longer than the grammar has types
  (`Grammar.Ordered.exists_position`).
* `Settings.ordered_of_grammar_eq_ok` — grammars from settings are ordered, because each entry is
  built before the later ones are there.
-/

namespace InlineMarkup

namespace Grammar

/-- **The types of a grammar at a depth.** Its own types have depth zero, and those in the grammar
of a branch are one deeper than the branch. -/
inductive Holds (g : Grammar) : (depth : Nat) → TokenType → Prop where
  | own {t : TokenType} (mem : t ∈ g) : Holds g 0 t
  | inside {depth : Nat} {t u : TokenType} {inner : Grammar} (around : Holds g depth t)
      (declares : t.inner? = some inner) (mem : u ∈ inner) : Holds g (depth + 1) u

/-- **An ordered grammar.** What a type has inside of it stands in front of the type. -/
def Ordered (g : Grammar) : Prop :=
  ∀ front t back, g = front ++ t :: back → ∀ inner, t.inner? = some inner → ∀ u ∈ inner, u ∈ front

namespace Ordered

variable {g inner : Grammar} {t u : TokenType} {i j depth : Nat}

/-- A type inside of another one has a position further to the front. -/
theorem exists_lt (h : g.Ordered) (ht : g[j]? = some t) (hinner : t.inner? = some inner)
    (hu : u ∈ inner) : ∃ i < j, g[i]? = some u := by
  obtain ⟨hj, rfl⟩ := List.getElem?_eq_some_iff.mp ht
  -- the types in front of position `j` are those with a lower one
  have hsplit : g = g.take j ++ g[j] :: g.drop (j + 1) := by simp
  have hfront : u ∈ g.take j := h _ _ _ hsplit inner hinner u hu
  obtain ⟨i, hi, rfl⟩ := List.mem_take_iff_getElem.mp hfront
  have hij : i < j ∧ i < g.length := Nat.lt_min.mp hi
  exact ⟨i, hij.1, List.getElem?_eq_getElem hij.2⟩

/-- **Going inside goes to the front.** A type at some depth has a position that leaves room for as
many types behind it. -/
theorem exists_position (h : g.Ordered) (ht : g.Holds depth t) :
    ∃ j, g[j]? = some t ∧ j + depth < g.length := by
  induction ht with
  | own mem =>
    obtain ⟨j, hj, rfl⟩ := List.mem_iff_getElem.mp mem
    exact ⟨j, List.getElem?_eq_getElem hj, hj⟩
  | inside _ declares mem ih =>
    obtain ⟨j, hj, hroom⟩ := ih
    -- one level deeper the position is at least one less
    obtain ⟨i, hij, hi⟩ := h.exists_lt hj declares mem
    exact ⟨i, hi, by omega⟩

/-- A type at any depth is a type of the grammar itself. -/
theorem mem_of_holds (h : g.Ordered) (ht : g.Holds depth t) : t ∈ g := by
  obtain ⟨j, hj, -⟩ := h.exists_position ht
  exact List.mem_of_getElem? hj

/-- If no kind stands twice, a type has one position, so it is in front of whatever holds it. -/
theorem lt_of_mem_inner (h : g.Ordered) (hdistinct : (g.map TokenType.kind).Nodup)
    (hi : g[i]? = some u) (hj : g[j]? = some t) (hinner : t.inner? = some inner)
    (hu : u ∈ inner) : i < j := by
  obtain ⟨i', hlt, hi'⟩ := h.exists_lt hj hinner hu
  have hbound : i < g.length := (List.getElem?_eq_some_iff.mp hi).1
  have hsame : i = i' :=
    (List.getElem?_inj hbound (List.Nodup.of_map _ hdistinct)).mp (hi.trans hi'.symm)
  rwa [hsame]

end Ordered
end Grammar

/-! ### Entries in turn -/

namespace Entry

variable {declared ts : List TokenType} {es : List Entry}

/-- What holds of types in turn holds of each of them behind those in front of it. -/
theorem InTurn.at_type {P : List TokenType → TokenType → Prop}
    (h : InTurn (fun earlier _ t => P earlier t) declared es ts) :
    ∀ front t back, ts = front ++ t :: back → P (declared ++ front) t := by
  induction h with
  | nil => exact fun front t back hts => by simp at hts
  | @cons declared ts e es t hP _ ih =>
    intro front u back hts
    -- the first type, behind those declared, or one of the rest
    cases front with
    | nil =>
      cases hts
      simpa using hP
    | cons t' front =>
      cases hts
      simpa using ih front u back rfl

end Entry

namespace Settings

variable {s : Settings} {g : Grammar}

/-- **Grammars from settings are ordered.** -/
theorem ordered_of_grammar_eq_ok (h : s.grammar.1 = .ok g) : g.Ordered := by
  obtain ⟨hbuilds, haccepted⟩ := grammar_eq_ok_iff.mp h
  obtain ⟨-, hdescribed⟩ := Entry.legal_of_builds hbuilds haccepted
  -- the interior that an entry describes is made of earlier types
  have hearlier : Entry.InTurn (fun earlier _ t =>
      ∀ inner, t.inner? = some inner → ∀ u ∈ inner, u ∈ earlier) [] s.entries g :=
    hdescribed.imp fun _ _ _ hdescribes _ hinner => hdescribes.mem_earlier hinner
  exact hearlier.at_type

/-- **One type for each kind.** If settings give a grammar, its types are those of the entries in
their order, with distinct kinds. Every type that stands in it at some depth is the type which the
whole grammar has for that kind. The types inside of a type stand in front of it, so that depths
stay below the number of entries. -/
theorem own?_of_holds (h : s.grammar.1 = .ok g) :
    (g.map TokenType.kind = s.entries.map Entry.kind ∧ (g.map TokenType.kind).Nodup) ∧
      (∀ depth t, g.Holds depth t →
        g.own? t.kind = some t ∧ depth < s.entries.length) ∧
      ∀ depth t inner u, g.Holds depth t → t.inner? = some inner → u ∈ inner →
        ∀ i j : Nat, g[i]? = some u → g[j]? = some t → i < j := by
  obtain ⟨hbuilds, haccepted⟩ := grammar_eq_ok_iff.mp h
  obtain ⟨-, -, hdistinct⟩ := Grammar.ofTypes_eq_ok_iff.mp haccepted
  obtain ⟨-, hdescribed⟩ := Entry.legal_of_builds hbuilds haccepted
  have hordered := ordered_of_grammar_eq_ok h
  refine ⟨⟨hdescribed.kinds_of_describes, hdistinct⟩, fun depth t ht => ⟨?_, ?_⟩, ?_⟩
  · exact (Grammar.own?_eq_some_iff hdistinct).mpr ⟨hordered.mem_of_holds ht, rfl⟩
  · obtain ⟨j, -, hroom⟩ := hordered.exists_position ht
    rw [hbuilds.length_eq] at hroom
    exact Nat.lt_of_le_of_lt (Nat.le_add_left depth j) hroom
  · exact fun _ _ _ _ _ hinner hu _ _ hi hj => hordered.lt_of_mem_inner hdistinct hi hj hinner hu

/-- Three entries, the last of which holds the second one and that the first: the depth of the first
type, two, is as great as the number of entries allows. -/
theorem own?_of_holds_notes :
    notes.grammar.1 = .ok notesGrammar ∧
      notesGrammar.Holds 2 (.surround "em" "_") ∧
      notesGrammar.own? "em" = some (.surround "em" "_") ∧ 2 < notes.entries.length := by
  have hgrammar : notes.grammar.1 = .ok notesGrammar := rfl
  have hnote : notesGrammar.Holds 0 (notesGrammar[2]) := .own (List.getElem_mem _)
  have haside : notesGrammar.Holds 1 (notesGrammar[1]) := hnote.inside rfl List.mem_cons_self
  have hem : notesGrammar.Holds 2 (.surround "em" "_") := haside.inside rfl List.mem_cons_self
  exact ⟨hgrammar, hem, (own?_of_holds hgrammar).2.1 2 _ hem⟩

/-- A grammar that is not from settings: the box holds a type that the whole grammar has not. -/
example : ¬ Grammar.Ordered [.surround "em" "_",
    (TokenType.delimited "box" "[" "]").withGrammar [.surround "em" "__"]] := by
  intro h
  have hmem := h [.surround "em" "_"] _ [] rfl _ rfl _ List.mem_cons_self
  rw [List.mem_singleton] at hmem
  simp [TokenType.surround, TokenType.delimited] at hmem

end Settings
end InlineMarkup
