import InlineMarkup.Constraint
import InlineMarkup.Proofs.Places

/-!
# Priority

Of the rules that fit at a position the first one wins, and nothing else decides what becomes of a
text: for every token, wherever it stands, the first rules that fit at its bytes say why it is
there.

* `Level.first?` — the first rule that fits, in the order of the rules.
* `Place.Explained` — what the first rules have to be at the bytes of a token: of a word, of a leaf
  of another kind, and of a branch with the end of its interior.
* `Tokenizer.explained_of_mem_places` — every token of a text is explained in this way.

What covers a token (`Scan.Covers`) was said in terms of `Level.next`, which falls back on the
catch-all type where no rule fits. Its kind is reserved, so the two ways to speak of what comes next
say the same (`Level.Proper.first?_of_next`, `Level.Proper.first?_of_word`).
-/

namespace InlineMarkup

/-! ### The first rule that fits -/

namespace Level

/-- **The first rule that fits the coming text,** in the order of the rules, and what it takes. -/
def first? (level : Level) (coming : List Char) : Option Match :=
  level.rules.findSome? fun t => (t.matches? level.closing coming).map fun n => ⟨t, n⟩

variable {level : Level} {t : TokenType} {c : Char} {cs coming : List Char} {n : Nat}

theorem next_eq_getD (level : Level) (coming : List Char) :
    level.next coming =
      (level.first? coming).getD ⟨.word, Text.byteLength (coming.take 1)⟩ := by
  rw [next, Match.first?_snd, first?]

/-- The first rule that fits is one of the rules. -/
theorem mem_of_first? (h : level.first? coming = some ⟨t, n⟩) : t ∈ level.rules := by
  obtain ⟨u, hu, hmatch⟩ := List.exists_of_findSome?_eq_some h
  obtain ⟨k, -, heq⟩ := Option.map_eq_some_iff.mp hmatch
  cases heq
  exact hu

/-- What comes next, if it is not of the catch-all kind, is the first rule that fits. -/
theorem first?_of_next (hnext : level.next coming = ⟨t, n⟩) (hnamed : t.kind ≠ wordKind) :
    level.first? coming = some ⟨t, n⟩ := by
  rw [next_eq_getD] at hnext
  cases hfirst : level.first? coming with
  | none =>
    rw [hfirst] at hnext
    cases hnext
    exact absurd rfl hnamed
  | some m =>
    rw [hfirst] at hnext
    exact congrArg some hnext

/-- **No rule fits where the catch-all kind comes next,** and it takes one character. -/
theorem Proper.first?_of_word (h : level.Proper) {constraint : Option Constraint}
    (hnext : level.next coming = ⟨.leaf wordKind constraint, n⟩) :
    level.first? coming = none ∧ n = Text.byteLength (coming.take 1) := by
  rw [next_eq_getD] at hnext
  cases hfirst : level.first? coming with
  | none =>
    rw [hfirst] at hnext
    cases hnext
    exact ⟨rfl, rfl⟩
  | some m =>
    -- a rule that fits has a kind of its own
    rw [hfirst] at hnext
    obtain rfl : m = ⟨.leaf wordKind constraint, n⟩ := hnext
    exact absurd rfl (h.rules.kind_ne_word (mem_of_first? hfirst))

/-- What is longer than one character is not of the catch-all kind. -/
theorem Proper.named_of_long (h : level.Proper) {kind : String} {constraint : Option Constraint}
    {piece behind : List Char}
    (hnext : level.next (piece ++ behind) = ⟨.leaf kind constraint, Text.byteLength piece⟩)
    (hlong : 1 < piece.length) : kind ≠ wordKind := by
  rintro rfl
  -- the catch-all kind would take the first character only
  have hone := (h.first?_of_word hnext).2
  match piece, hlong with
  | c :: d :: cs, _ =>
    have hpos := d.utf8Size_pos
    simp only [List.cons_append, List.take_succ_cons, List.take_zero, Text.byteLength_cons,
      Text.byteLength_nil] at hone
    omega

end Level

namespace Scan

variable {limit : Nat} {level : Level} {pending : Option Leaf} {coming rest : List Char}
  {tokens : List Token}

/-- **The interior of a branch ends where the branch is the first rule that fits.** -/
theorem Reads.first?_rest (h : Reads limit level pending coming tokens rest) (hlevel : level.Proper)
    {kind start stop : String} {inner : Option Grammar}
    (hclosing : level.closing = some (.branch kind start stop inner)) :
    level.first? rest = some ⟨.branch kind start stop inner, stop.utf8ByteSize⟩ := by
  -- a reading inside a branch does not come to the end of the text, so it stops at the delimiter
  induction h with
  | finished top =>
    rw [top] at hclosing
    cases hclosing
  | ended ends =>
    cases ends with
    | @ended t n next fresh own =>
      obtain ⟨_, _, _, _, hb, rfl, -, rfl⟩ := hlevel.next_closing next own
      cases hclosing.symm.trans hb
      exact Level.first?_of_next next (hlevel.rules.kind_ne_word (hlevel.closing_mem _ hb))
  | absorbed _ _ ih => exact ih hlevel hclosing
  | whole _ _ _ ih => exact ih hlevel hclosing
  | branch _ _ _ _ _ ihon => exact ihon hlevel hclosing

end Scan

/-! ### Bytes of a place -/

namespace Text

variable {whole piece behind : List Char} {position q : Nat}

/-- **A boundary inside a piece** cuts the piece in front of one of its characters. -/
theorem StandsAt.exists_cut (h : StandsAt whole position (piece ++ behind)) (hfrom : position ≤ q)
    (hto : q < position + byteLength piece) (hq : isBoundary q whole = true) :
    ∃ xs ys, piece = xs ++ ys ∧ ys ≠ [] ∧ StandsAt whole q (ys ++ behind) := by
  obtain ⟨front, hwhole, rfl⟩ := h
  obtain ⟨us, vs, hcut, rfl⟩ := isBoundary_iff.mp hq
  -- the boundary is not in front of the piece, so the piece begins in front of it
  obtain ⟨xs, rfl, hrest⟩ : ∃ xs, us = front ++ xs ∧ piece ++ behind = xs ++ vs := by
    rcases List.append_eq_append_iff.mp (hcut.symm.trans hwhole) with
      ⟨as, rfl, rfl⟩ | ⟨bs, rfl, hbs⟩
    · have has : as = [] := by
        by_contra hne
        have hpos := byteLength_pos hne
        rw [byteLength_append] at hfrom
        omega
      subst has
      exact ⟨[], by simp, by simp⟩
    · exact ⟨bs, rfl, hbs⟩
  rw [byteLength_append] at hto
  -- and the piece does not end in front of it
  rcases List.append_eq_append_iff.mp hrest with ⟨as, rfl, -⟩ | ⟨ys, rfl, rfl⟩
  · rw [byteLength_append] at hto
    omega
  · refine ⟨xs, ys, rfl, ?_, front ++ xs, hcut, rfl⟩
    rintro rfl
    rw [List.append_nil] at hto
    exact absurd hto (Nat.lt_irrefl _)

end Text

namespace Place

/-- The first rule that fits at a byte of the text, at the level of the place. -/
def first? (p : Place) (text : List Char) (q : Nat) : Option Match :=
  p.level.first? (Text.dropBytes q text)

/-- One of the token's characters begins at the byte. -/
def Spans (p : Place) (text : List Char) (q : Nat) : Prop :=
  p.position ≤ q ∧ q < p.finish ∧ Text.isBoundary q text = true

/-- **A token explained by priority.** At the bytes of a text that it covers the first rules that
fit are the following, those of a level that is inside of a branch being asked inside of it. -/
inductive Explained (text : List Char) (p : Place) : Prop where
  /-- Of a word: no rule fits, or a branch comes first, and not the one around the level. -/
  | word {content : String} (token : p.token = .word content)
      (free : ∀ q, p.Spans text q → ∀ m, p.first? text q = some m →
        m.type.isLeaf = false ∧ p.level.closing.any m.type.sameKind = false)
  /-- Of another leaf: its type comes first where it begins. It is as long as was measured there, or
  its type comes first at all of its characters. -/
  | leaf {kind content : String} {constraint : Option Constraint} {n : Nat}
      (token : p.token = .leaf kind content) (named : kind ≠ wordKind)
      (first : p.first? text p.position = some ⟨.leaf kind constraint, n⟩)
      (held : p.extent = n ∨
        ∀ q, p.Spans text q → ∃ m, p.first? text q = some ⟨.leaf kind constraint, m⟩)
  /-- Of a branch: its type comes first where it begins, by its opening delimiter; and inside of it,
  by its closing delimiter, where its interior ends. -/
  | branch {kind start stop : String} {inner : Option Grammar} {children : List Token}
      (token : p.token = .branch kind children)
      (first : p.first? text p.position =
        some ⟨.branch kind start stop inner, start.utf8ByteSize⟩)
      (foreign : p.level.closing.any (TokenType.branch kind start stop inner).sameKind = false)
      (closes : (p.level.inside (.branch kind start stop inner)).first?
          (Text.dropBytes (p.finish - stop.utf8ByteSize) text) =
        some ⟨.branch kind start stop inner, stop.utf8ByteSize⟩)

variable {p : Place} {g : Grammar} {text piece behind : List Char} {limit : Nat} {kind : String}

/-- The characters of a piece are those that the place spans. -/
theorem Spans.exists_cut {q : Nat} (h : p.Spans text q)
    (hstands : Text.StandsAt text p.position (piece ++ behind))
    (hextent : Text.byteLength piece = p.extent) :
    ∃ xs ys, piece = xs ++ ys ∧ ys ≠ [] ∧ p.first? text q = p.level.first? (ys ++ behind) := by
  obtain ⟨hfrom, hto, hq⟩ := h
  rw [finish, ← hextent] at hto
  obtain ⟨xs, ys, hcut, hys, hat⟩ := hstands.exists_cut hfrom hto hq
  exact ⟨xs, ys, hcut, hys, by rw [first?, hat.dropBytes_eq]⟩

/-- **A run is explained** character by character. -/
theorem explained_of_run (hlevel : p.level.Proper) (hrun : Scan.Run p.level kind piece behind)
    (htoken : p.token = .leaf kind (String.ofList piece))
    (hstands : Text.StandsAt text p.position (piece ++ behind))
    (hextent : Text.byteLength piece = p.extent) : p.Explained text := by
  by_cases hword : kind = wordKind
  · subst hword
    refine .word htoken fun q hq m hm => ?_
    obtain ⟨xs, ys, hcut, hys, hfirst⟩ := hq.exists_cut hstands hextent
    rw [hfirst] at hm
    cases hrun.joins hcut hys with
    | leaf next =>
      -- where the catch-all kind comes next, no rule fits
      rw [(hlevel.first?_of_word next).1] at hm
      cases hm
    | givenUp next branch foreign =>
      -- the rule that fits is the branch that was given up
      have hmem := Level.mem_of_next_branch next branch
      rw [Level.first?_of_next next (hlevel.rules.kind_ne_word hmem)] at hm
      cases hm
      exact ⟨branch, foreign⟩
  · obtain ⟨constraint, hmem⟩ := hrun.exists_mem hword
    -- where any part of the run is left, its type comes first
    have htaken : ∀ {xs ys}, piece = xs ++ ys → ys ≠ [] →
        ∃ n, p.level.first? (ys ++ behind) = some ⟨.leaf kind constraint, n⟩ := by
      intro xs ys hcut hys
      obtain ⟨n, hnext⟩ := hrun.next_of_mem hlevel hmem hcut hys
      exact ⟨n, Level.first?_of_next hnext hword⟩
    obtain ⟨c, cs, hcons⟩ := hrun.exists_cons
    obtain ⟨n, hfirst⟩ := htaken (List.nil_append piece).symm (by rw [hcons]; exact nofun)
    rw [← hstands.dropBytes_eq] at hfirst
    refine .leaf htoken hword hfirst (.inr fun q hq => ?_)
    obtain ⟨xs, ys, hcut, hys, heq⟩ := hq.exists_cut hstands hextent
    rw [heq]
    exact htaken hcut hys

/-- **A token found in its place is explained.** -/
theorem Found.explained (h : p.Found g text) : p.Explained text := by
  obtain ⟨hlevel, -, limit, piece, behind, hcovers, hstands⟩ := h
  have hextent : Text.byteLength piece = p.extent := hcovers.byteLength_eq hlevel
  obtain ⟨level, position, token⟩ := p
  dsimp only at hlevel hcovers hstands
  cases hcovers with
  | run run => exact explained_of_run hlevel run rfl hstands hextent
  | @whole limit _ kind constraint piece behind next long =>
    -- one match, whose length is the extent of the leaf
    have hnamed : kind ≠ wordKind := hlevel.named_of_long next long
    have hfirst := Level.first?_of_next next hnamed
    rw [← hstands.dropBytes_eq] at hfirst
    exact .leaf rfl hnamed hfirst (.inl hextent.symm)
  | @branch limit _ kind start stop inner middle children behind comes within =>
    have hmem := Level.mem_of_next_branch comes.next rfl
    have hnamed := hlevel.rules.kind_ne_word hmem
    have hfirst := Level.first?_of_next comes.next hnamed
    refine .branch rfl ?_ comes.foreign ?_
    · -- the opening delimiter stands at the place itself
      rw [first?, hstands.dropBytes_eq]
      simpa only [List.append_assoc] using hfirst
    · -- the closing delimiter stands behind the opening one and what is between them
      have hrest : Text.StandsAt text (position + Text.byteLength (start.toList ++ middle))
          (stop.toList ++ behind) := by
        refine Text.StandsAt.advance ?_
        simpa only [List.append_assoc] using hstands
      have hfinish : finish ⟨level, position, .branch kind children⟩ - stop.utf8ByteSize =
          position + Text.byteLength (start.toList ++ middle) := by
        rw [finish, ← hextent]
        simp only [Text.byteLength_append, Text.byteLength_toList]
        omega
      rw [hfinish, hrest.dropBytes_eq]
      exact within.first?_rest (hlevel.inside hmem rfl) rfl

end Place

namespace Tokenizer

/-- **Priority decides, and nothing else.** With a valid grammar every token of a text, however
deep, is explained by the first rules that fit at the bytes that it covers; for a leaf these are the
bytes of its text. -/
theorem explained_of_mem_places (t : Tokenizer) (hg : t.grammar.Valid) (text : String) :
    (t.places text).map Place.visit = Token.walkList 0 (t.tokenize text) ∧
      ∀ p ∈ t.places text, p.Explained text.toList ∧
        ∀ kind content, p.token = .leaf kind content → p.slice text = content := by
  refine ⟨t.map_visit_places text, fun p hp => ?_⟩
  have hfound := found hg text p hp
  exact ⟨hfound.explained, fun _ _ => hfound.slice_leaf⟩

/-- Two codes, the shorter one first, and bold text. -/
def codes : Grammar :=
  [.constrained "short" (.literals ["ab"]), .constrained "long" (.literals ["abc"]),
   .surround "bold" "*"]

/-- The longer code is never found, though it fits; the last mark has nothing behind it. -/
theorem explained_of_mem_places_codes :
    codes.Valid ∧
      ((⟨codes, 64⟩ : Tokenizer).places "*abc**").map (fun p => (p.position, p.token)) =
        [(0, .branch "bold" [.leaf "short" "ab", .word "c"]), (1, .leaf "short" "ab"),
          (3, .word "c"), (5, .word "*")] ∧
      ∀ p ∈ (⟨codes, 64⟩ : Tokenizer).places "*abc**", p.Explained "*abc**".toList ∧
        ∀ kind content, p.token = .leaf kind content → p.slice "*abc**" = content := by
  have hg : codes.Valid := Grammar.valid_of_flat rfl (by decide)
  refine ⟨hg, ?_, (explained_of_mem_places ⟨codes, 64⟩ hg "*abc**").2⟩
  rw [places, tokenize_eq_outcome hg]
  decide +kernel

end Tokenizer
end InlineMarkup
