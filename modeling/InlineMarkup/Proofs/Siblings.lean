import InlineMarkup.Proofs.Matches
import InlineMarkup.Proofs.UnderWay

/-!
# Leaves side by side

A leaf goes on as long as its kind comes next, so it has a leaf of the same kind beside it in one
case only: it was a single match of more than one character. Such a match is a leaf of its own at
once, and nothing is under way behind it.

* `Siblings` — tokens that stand side by side, in their place. `Tokenizer.siblings` are those of a
  text: its roots, and what each branch holds.
* `Tokenizer.siblings_found` — siblings are what is read from the text at their place.
* `Scan.Reads.whole_of_beside` — where a reading begins with two leaves of one kind, the first of
  them is a single match.
* `Tokenizer.single_match_of_beside` — so it is everywhere in the tokens of a text. No two words are
  side by side, and no two leaves of a type that measures nothing.
-/

namespace InlineMarkup

/-! ### Siblings in their places -/

/-- **Siblings:** tokens that stand side by side at a level, and the byte where the first of them
begins. -/
structure Siblings where
  level : Level
  position : Nat
  tokens : List Token

/-- What a token holds, if it is a branch: siblings behind its opening delimiter. -/
def Place.siblings? (p : Place) : Option Siblings :=
  match p.token with
  | .leaf .. => none
  | .branch kind children =>
    let t := p.level.typeOf kind
    some ⟨p.level.inside t, p.position + (t.start?.getD "").utf8ByteSize, children⟩

/-- **The siblings of a text:** its roots, and what its branches hold, in the order of a walk. -/
def Tokenizer.siblings (t : Tokenizer) (text : String) : List Siblings :=
  ⟨.top t.grammar, 0, t.tokenize text⟩ :: (t.places text).filterMap Place.siblings?

/-- Everything that stands side by side is among the siblings of a text. -/
theorem Tokenizer.map_tokens_siblings (t : Tokenizer) (text : String) :
    (t.siblings text).map Siblings.tokens = t.tokenize text ::
      (Token.walkList 0 (t.tokenize text)).filterMap fun v => v.token.children? := by
  have hheld : ∀ p : Place,
      p.siblings?.map Siblings.tokens = p.visit.token.children? := by
    intro p
    obtain ⟨level, position, _ | _⟩ := p <;> rfl
  rw [← t.map_visit_places, List.filterMap_map, siblings, List.map_cons, List.map_filterMap]
  congr 2
  funext p
  exact hheld p

namespace Level

/-- The extent of two forests in turn. -/
theorem extentAll_append (level : Level) (xs ys : List Token) :
    level.extentAll (xs ++ ys) = level.extentAll xs + level.extentAll ys := by
  induction xs with
  | nil => simp only [List.nil_append, extentAll, Nat.zero_add]
  | cons x xs ih => rw [List.cons_append, extentAll, extentAll, ih, Nat.add_assoc]

end Level

/-- **Siblings that are found in their place:** they are what is read there. -/
structure Siblings.Found (s : Siblings) (whole : List Char) : Prop where
  proper : s.level.Proper
  read : ∃ limit coming rest, Scan.Reads limit s.level none coming s.tokens rest ∧
    Text.StandsAt whole s.position coming

/-- What a branch holds is found in its place if the branch is. -/
theorem Place.Found.siblings {g : Grammar} {whole : List Char} {p : Place} (h : p.Found g whole)
    {s : Siblings} (hs : p.siblings? = some s) : s.Found whole := by
  obtain ⟨hlevel, -, limit, piece, behind, hcovers, hstands⟩ := h
  obtain ⟨level, position, token⟩ := p
  dsimp only at hlevel hcovers hstands
  cases hcovers with
  | whole =>
    -- leaves hold nothing
    cases hs
  | run => cases hs
  | @branch limit _ kind start stop inner middle children behind comes within =>
    have hmem := Level.mem_of_next_branch comes.next rfl
    have htype : level.typeOf kind = .branch kind start stop inner :=
      Level.typeOf_kind hlevel.rules hmem
    simp only [siblings?, htype, Option.some.injEq] at hs
    subst hs
    refine ⟨hlevel.inside hmem rfl, limit, _, _, within, ?_⟩
    simp only [List.append_assoc] at hstands
    exact hstands.behind_mark

/-- **The siblings of a text are found in their places.** -/
theorem Tokenizer.siblings_found {t : Tokenizer} (hg : t.grammar.Valid) (text : String) :
    ∀ s ∈ t.siblings text, s.Found text.toList := by
  intro s hs
  rcases List.mem_cons.mp hs with rfl | hs
  · exact ⟨Level.proper_top hg, _, _, _, reads_tokenize hg text, Text.standsAt_zero _⟩
  · obtain ⟨p, hp, hheld⟩ := List.mem_filterMap.mp hs
    exact (found hg text p hp).siblings hheld

/-! ### Two leaves of one kind -/

/-- **What is longer than one character has been measured.** -/
theorem Level.Proper.matches_of_long {level : Level} (h : level.Proper) {kind : String}
    {constraint : Option Constraint} {piece behind : List Char}
    (hnext : level.next (piece ++ behind) = ⟨.leaf kind constraint, Text.byteLength piece⟩)
    (hlong : 1 < piece.length) :
    ∃ c, .leaf kind (some c) ∈ level.rules ∧ c.Matches piece behind := by
  have hfirst := Level.first?_of_next hnext (h.named_of_long hnext hlong)
  have hmem := Level.mem_of_first? hfirst
  cases constraint with
  | some c =>
    -- what was measured is as long as the piece, so it is the piece
    obtain ⟨m, rest, hcut, hsize, hmatch⟩ := h.exists_matches hnext
    obtain ⟨rfl, rfl⟩ := Text.append_inj_of_byteLength_eq hcut hsize
    exact ⟨c, hmem, hmatch⟩
  | none =>
    -- a type that measures nothing takes the first character alone
    rcases Level.next_cases hnext with ⟨-, hfit⟩ | ⟨hword, -⟩
    · match piece, hlong with
      | c :: d :: cs, _ =>
        have hone : c.utf8Size = Text.byteLength (c :: d :: cs) := by
          simpa [TokenType.fit] using hfit
        have hpos := d.utf8Size_pos
        simp only [Text.byteLength_cons] at hone
        omega
    · cases hword
      exact absurd rfl (h.named_of_long hnext hlong)

namespace Scan

variable {limit : Nat} {level : Level} {coming rest : List Char} {tokens : List Token}

/-- **Of two leaves of one kind side by side** the first one is a single match of more than one
character. -/
theorem Reads.whole_of_beside {kind first second : String}
    (h : Reads limit level none coming (.leaf kind first :: .leaf kind second :: tokens) rest)
    (hlevel : level.Proper) :
    ∃ c behind, .leaf kind (some c) ∈ level.rules ∧ coming = first.toList ++ behind ∧
      1 < first.length ∧ c.Matches first.toList behind := by
  generalize hpending : none = pending at h
  generalize htokens : Token.leaf kind first :: Token.leaf kind second :: tokens = all at h
  cases h with
  | finished top =>
    -- nothing is under way, so no token would be made at an end
    subst hpending
    cases htokens
  | ended ends =>
    subst hpending
    cases htokens
  | absorbed goes onward =>
    -- a leaf that was under way has no leaf of its kind behind it
    subst hpending
    obtain ⟨added, later, rfl, hlater, -⟩ := onward.underWay
    cases htokens
    exact absurd rfl (hlater second)
  | @whole _ _ _ _ constraint piece behind _ _ comes long onward =>
    subst hpending
    cases htokens
    obtain ⟨c, hmem, hmatch⟩ := hlevel.matches_of_long comes.next long
    refine ⟨c, behind, hmem, ?_, ?_, ?_⟩
    · rw [String.toList_ofList]
    · rwa [← String.length_toList, String.toList_ofList]
    · rwa [String.toList_ofList]
  | branch comes filled within onward =>
    -- a branch is no leaf
    subst hpending
    cases htokens

/-- **Inside a reading,** the first of two leaves of one kind side by side is such a match where it
stands. -/
theorem Reads.match_of_beside {kind first second : String} {done later : List Token}
    {whole : List Char} {position : Nat} (h : Reads limit level none coming tokens rest)
    (hlevel : level.Proper) (hstands : Text.StandsAt whole position coming)
    (hcut : tokens = done ++ .leaf kind first :: .leaf kind second :: later) :
    ∃ c behind, .leaf kind (some c) ∈ level.rules ∧
      Text.StandsAt whole (position + level.extentAll done) (first.toList ++ behind) ∧
      1 < first.length ∧ c.Matches first.toList behind := by
  -- the reading can start again in front of the two leaves
  obtain ⟨piece, tail, rfl, hagain⟩ := h.afresh hcut (.inl rfl)
  obtain ⟨c, behind, hmem, rfl, hlong, hmatch⟩ := hagain.whole_of_beside hlevel
  refine ⟨c, behind, hmem, ?_, hlong, hmatch⟩
  -- the tokens in front cover what has been read in front
  have hextent : level.extentAll done = Text.byteLength piece := by
    have hall := (h.row hlevel fun _ => nofun).byteLength_eq hlevel
    have hlater := (hagain.row hlevel fun _ => nofun).byteLength_eq hlevel
    have hheld : (Leaf.held none).toList = [] := rfl
    rw [hheld, List.nil_append] at hall hlater
    rw [hcut, Level.extentAll_append, Text.byteLength_append, hlater] at hall
    omega
  rw [hextent]
  exact hstands.advance

end Scan

namespace Tokenizer

/-- **Leaves are maximal.** With a valid grammar, wherever in the tokens of a text two leaves of one
kind stand side by side, that kind is of a type with a constraint, and the first of the two is what
the constraint measures there, one match of more than one character. So no two words are side by
side, and no two leaves of a type without a constraint. -/
theorem single_match_of_beside (t : Tokenizer) (hg : t.grammar.Valid) (text : String) :
    (t.siblings text).map Siblings.tokens = t.tokenize text ::
        (Token.walkList 0 (t.tokenize text)).filterMap (fun v => v.token.children?) ∧
      ∀ s ∈ t.siblings text, ∀ done kind first second later,
        s.tokens = done ++ .leaf kind first :: .leaf kind second :: later →
          kind ≠ wordKind ∧ .leaf kind none ∉ s.level.rules ∧
          ∃ c behind, .leaf kind (some c) ∈ s.level.rules ∧
            Text.StandsAt text.toList (s.position + s.level.extentAll done)
              (first.toList ++ behind) ∧
            1 < first.length ∧ c.Matches first.toList behind := by
  refine ⟨t.map_tokens_siblings text, ?_⟩
  intro s hs done kind first second later hcut
  obtain ⟨hlevel, limit, coming, rest, hreads, hstands⟩ := siblings_found hg text s hs
  obtain ⟨c, behind, hmem, hmatch⟩ := hreads.match_of_beside hlevel hstands hcut
  refine ⟨hlevel.rules.kind_ne_word hmem, ?_, c, behind, hmem, hmatch⟩
  intro hplain
  -- in a rule list the kind stands for one type, which has a constraint
  have hsame := hlevel.rules.eq_of_kind_eq hplain hmem rfl
  cases hsame

/-- Codes of several characters, each a leaf of its own. -/
theorem single_match_of_beside_codes :
    let codes : Constraint := .literals [":+1:", "-"]
    let t : Tokenizer := ⟨[.constrained "code" codes, .surround "bold" "*"], 64⟩
    let inside : Siblings := ⟨(Level.top t.grammar).inside (.surround "bold" "*"), 3,
      [.word "a", .leaf "code" ":+1:", .leaf "code" "--"]⟩
    t.grammar.Valid ∧ inside ∈ t.siblings "é*a:+1:--*" ∧
      ∃ behind, Text.StandsAt "é*a:+1:--*".toList 4 (":+1:".toList ++ behind) ∧
        codes.Matches ":+1:".toList behind := by
  intro codes t inside
  have hg : t.grammar.Valid := Grammar.valid_of_flat rfl (by decide)
  have htokens : t.tokenize "é*a:+1:--*" = [.word "é", .branch "bold" inside.tokens] := by
    rw [tokenize_eq_outcome hg]
    decide +kernel
  have hs : inside ∈ t.siblings "é*a:+1:--*" := by
    rw [siblings, places, htokens]
    exact List.mem_cons_of_mem _ List.mem_cons_self
  obtain ⟨-, -, c, behind, hmem, hstands, -, hmatch⟩ :=
    (single_match_of_beside t hg "é*a:+1:--*").2 inside hs [.word "a"] "code" _ _ [] rfl
  -- the interior is read with the rules around it, of which one is of this kind
  obtain rfl : c = codes := by
    have hrules : TokenType.leaf "code" (some c) ∈ t.grammar := hmem
    simpa [t, TokenType.constrained, TokenType.surround, TokenType.delimited] using hrules
  exact ⟨hg, hs, behind, hstands, hmatch⟩

end Tokenizer
end InlineMarkup
