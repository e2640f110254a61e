import InlineMarkup.Proofs.Canonical
import InlineMarkup.Proofs.Restart
import InlineMarkup.Proofs.Typing

/-!
# Tokens in their places

A token does not tell where in the text it was found. But the tokens of a level lie along its text
without gaps, a branch with its delimiters around what it holds, and the rules of a level tell what
the delimiters of a kind are. So the places of all tokens can be counted from the front:

* `Place` — a token with the level it stands at and the byte where it begins; `Level.extent` is the
  number of bytes from there to its end.
* `Level.places` — the places of a forest, in the order of its walk.

What has become of the text in between is said token by token. A leaf that is no single match is a
run of characters each of which was taken for its kind (`Scan.Run`); `Scan.Covers` is the account of
one token, and `Scan.Row` that of the tokens of a level, one behind the other.

* `Scan.Reads.row` — a reading lays its tokens along the text. This is where the leaf under way
  goes: it is a run that has not ended yet.
* `Tokenizer.found` — every token of a text covers the bytes that its place says.
-/

namespace InlineMarkup

/-! ### Places -/

namespace Level

/-- The type that a kind stands for at a level. An undeclared kind counts as a branch without
delimiters; the tokens of a text have none. -/
def typeOf (level : Level) (kind : String) : TokenType :=
  (Grammar.own? kind level.rules).getD (.delimited kind "" "")

mutual

/-- **The extent of a token** at a level, in bytes: its text, or its delimiters and all between. -/
def extent (level : Level) : Token → Nat
  | .leaf _ text => text.utf8ByteSize
  | .branch kind children =>
    let t := level.typeOf kind
    (t.start?.getD "").utf8ByteSize + extentAll (level.inside t) children +
      (t.stop?.getD "").utf8ByteSize

/-- The extent of a forest, the roots standing side by side. -/
def extentAll (level : Level) : List Token → Nat
  | [] => 0
  | t :: ts => extent level t + extentAll level ts

end

end Level

/-- **A token in its place:** the level it stands at and the byte where it begins. -/
structure Place where
  level : Level
  position : Nat
  token : Token

namespace Place

/-- The number of bytes that the token covers. -/
def extent (p : Place) : Nat := p.level.extent p.token

/-- The byte where the token has ended. -/
def finish (p : Place) : Nat := p.position + p.extent

/-- **The slice of a text** that the token covers. -/
def slice (p : Place) (text : String) : String :=
  String.ofList (Text.takeBytes p.extent (Text.dropBytes p.position text.toList))

/-- The stop of a walk that the place belongs to. -/
def visit (p : Place) : Token.Visit := ⟨p.level.depth, p.token⟩

end Place

namespace Level

mutual

/-- The places of a token that begins at `position`, and of all tokens inside it. -/
def placesOf (level : Level) (position : Nat) : Token → List Place
  | .leaf kind text => [⟨level, position, .leaf kind text⟩]
  | .branch kind children =>
    let t := level.typeOf kind
    ⟨level, position, .branch kind children⟩ ::
      places (level.inside t) (position + (t.start?.getD "").utf8ByteSize) children

/-- **The places of a forest** whose first root begins at `position`: the roots side by side, and
what a branch holds between its delimiters. -/
def places (level : Level) (position : Nat) : List Token → List Place
  | [] => []
  | t :: ts => placesOf level position t ++ places level (position + level.extent t) ts

end

mutual

theorem map_visit_placesOf (level : Level) (position : Nat) :
    (t : Token) → (level.placesOf position t).map Place.visit = t.walkFrom level.depth
  | .leaf kind text => by simp [placesOf, Token.walkFrom, Place.visit]
  | .branch kind children => by
    have hinside := map_visit_places (level.inside (level.typeOf kind))
      (position + ((level.typeOf kind).start?.getD "").utf8ByteSize) children
    rw [placesOf, Token.walkFrom, List.map_cons, hinside]
    rfl

/-- **Every token has its place:** the places of a forest are the stops of its walk. -/
theorem map_visit_places (level : Level) (position : Nat) :
    (ts : List Token) → (level.places position ts).map Place.visit = Token.walkList level.depth ts
  | [] => rfl
  | t :: ts => by
    rw [places, Token.walkList, List.map_append, map_visit_placesOf level position t,
      map_visit_places level _ ts]

end

variable {level : Level}

/-- In a rule list the type of a kind is the one of that kind. -/
theorem typeOf_kind {t : TokenType} (h : level.rules.IsRuleList) (ht : t ∈ level.rules) :
    level.typeOf t.kind = t := by
  rw [typeOf, h.own?_eq_some ht, Option.getD_some]

end Level

/-! ### What a token covers -/

/-- **A character taken for a kind.** What comes next is a leaf of that kind, or the character is
text because no rule fits or because the branch that fits is given up; its own branch would have
ended the level. -/
inductive Level.Joins (level : Level) (coming : List Char) : String → Prop where
  | leaf {kind : String} {constraint : Option Constraint} {n : Nat}
      (next : level.next coming = ⟨.leaf kind constraint, n⟩) : Joins level coming kind
  | givenUp {t : TokenType} {n : Nat} (next : level.next coming = ⟨t, n⟩)
      (branch : t.isLeaf = false) (foreign : level.closing.any t.sameKind = false) :
      Joins level coming wordKind

namespace Scan

/-- **A run of a kind,** with `behind` to follow: characters taken for that kind, the first of which
is all that was measured there. -/
inductive Run (level : Level) : String → List Char → List Char → Prop where
  | begun {kind c behind} (joins : level.Joins (c :: behind) kind)
      (short : ∀ constraint n, level.next (c :: behind) = ⟨.leaf kind constraint, n⟩ →
        n = c.utf8Size) :
      Run level kind [c] behind
  | grown {kind piece c behind} (run : Run level kind piece (c :: behind))
      (joins : level.Joins (c :: behind) kind) : Run level kind (piece ++ [c]) behind

/-- **What a token covers.** `Covers limit level token piece behind` says how the token came to
cover `piece`, with `behind` to follow, at a level where `limit` further levels are allowed. -/
inductive Covers : Nat → Level → Token → List Char → List Char → Prop where
  /-- One match of more than one character. -/
  | whole {limit level kind constraint piece behind}
      (next : level.next (piece ++ behind) = ⟨.leaf kind constraint, Text.byteLength piece⟩)
      (long : 1 < piece.length) :
      Covers limit level (.leaf kind (String.ofList piece)) piece behind
  | run {limit level kind piece behind} (run : Run level kind piece behind) :
      Covers limit level (.leaf kind (String.ofList piece)) piece behind
  /-- A branch, whose interior is read up to the closing delimiter. -/
  | branch {limit level kind start stop inner middle children behind}
      (comes : Comes level none (start.toList ++ (middle ++ (stop.toList ++ behind)))
        (.branch kind start stop inner) start.utf8ByteSize)
      (within : Reads limit (level.inside (.branch kind start stop inner)) none
        (middle ++ (stop.toList ++ behind)) children (stop.toList ++ behind)) :
      Covers (limit + 1) level (.branch kind children) (start.toList ++ (middle ++ stop.toList))
        behind

/-- **Tokens along a text,** each covering what is in front of the next one. -/
inductive Row (limit : Nat) (level : Level) : List Char → List Token → List Char → Prop where
  | nil {rest} : Row limit level rest [] rest
  | cons {token tokens piece coming rest} (first : Covers limit level token piece coming)
      (others : Row limit level coming tokens rest) :
      Row limit level (piece ++ coming) (token :: tokens) rest

/-! ### Readings lay their tokens along the text -/

variable {limit : Nat} {level : Level} {pending : Option Leaf} {coming rest : List Char}
  {tokens : List Token}

namespace Run

variable {kind : String} {piece behind : List Char}

/-- A run is not empty. -/
theorem exists_cons (h : Run level kind piece behind) : ∃ c cs, piece = c :: cs := by
  cases h with
  | begun => exact ⟨_, _, rfl⟩
  | grown => exact List.exists_cons_of_ne_nil (by simp)

/-- **Every character of a run is taken for its kind,** whatever of the run is in front of it. -/
theorem joins (h : Run level kind piece behind) {xs ys : List Char} (hcut : piece = xs ++ ys)
    (hys : ys ≠ []) : level.Joins (ys ++ behind) kind := by
  induction h generalizing ys with
  | @begun c behind joins short =>
    -- there is one character, and it is not in front
    obtain ⟨rfl, rfl⟩ : xs = [] ∧ ys = [c] := by
      rcases List.append_eq_singleton_iff.mp hcut.symm with h | ⟨-, rfl⟩
      · exact h
      · exact absurd rfl hys
    exact joins
  | @grown piece c behind run joins ih =>
    -- the last character, or one that was there before it
    obtain ⟨zs, d, rfl⟩ : ∃ zs d, ys = zs ++ [d] := ⟨_, _, (List.dropLast_concat_getLast hys).symm⟩
    rw [← List.append_assoc] at hcut
    obtain ⟨hpiece, hc⟩ := List.append_inj' hcut rfl
    obtain rfl : c = d := List.singleton_inj.mp hc
    by_cases hzs : zs = []
    · subst hzs
      exact joins
    · have hbefore := ih hpiece hzs
      rwa [List.append_assoc]

/-- The first character is all that was measured there. -/
theorem short (h : Run level kind piece behind) {c : Char} {cs : List Char}
    (hpiece : piece = c :: cs) {constraint : Option Constraint} {n : Nat}
    (hnext : level.next (piece ++ behind) = ⟨.leaf kind constraint, n⟩) : n = c.utf8Size := by
  induction h generalizing cs with
  | begun joins short =>
    cases hpiece
    exact short constraint n hnext
  | @grown piece d behind run joins ih =>
    -- the first character has been there before the run grew
    obtain ⟨c', cs', rfl⟩ := run.exists_cons
    obtain rfl : c' = c := (List.cons.inj hpiece).1
    rw [List.append_assoc] at hnext
    exact ih rfl hnext

/-- A run of another kind than the catch-all one has a leaf of that kind among the rules. -/
theorem exists_mem (h : Run level kind piece behind) (hnamed : kind ≠ wordKind) :
    ∃ constraint, .leaf kind constraint ∈ level.rules := by
  obtain ⟨c, cs, rfl⟩ := h.exists_cons
  -- its first character is taken for the kind, and not as text
  have hfirst : level.Joins (c :: cs ++ behind) kind :=
    h.joins (List.nil_append _).symm (List.cons_ne_nil c cs)
  cases hfirst with
  | leaf next =>
    rcases Level.next_cases next with ⟨hmem, -⟩ | ⟨hword, -⟩
    · exact ⟨_, hmem⟩
    · cases hword
      exact absurd rfl hnamed
  | givenUp => exact absurd rfl hnamed

/-- **Every character of a run of a declared kind is taken by the leaf type of that kind.** -/
theorem next_of_mem (h : Run level kind piece behind) (hlevel : level.Proper)
    {constraint : Option Constraint} (hmem : .leaf kind constraint ∈ level.rules)
    {xs ys : List Char} (hcut : piece = xs ++ ys) (hys : ys ≠ []) :
    ∃ n, level.next (ys ++ behind) = ⟨.leaf kind constraint, n⟩ := by
  have hnamed : kind ≠ wordKind := hlevel.rules.kind_ne_word hmem
  cases h.joins hcut hys with
  | givenUp => exact absurd rfl hnamed
  | @leaf _ constraint' n next =>
    -- the kind stands for one type among the rules
    rcases Level.next_cases next with ⟨hmem', -⟩ | ⟨hword, -⟩
    · cases hlevel.rules.eq_of_kind_eq hmem' hmem rfl
      exact ⟨n, next⟩
    · cases hword
      exact absurd rfl hnamed

end Run

/-- **A character that is absorbed is taken for the kind of its leaf,** if the leaf under way is a
run. -/
theorem Decided.joins {c : Char} {cs : List Char} {kind : String} (hlevel : level.Proper)
    (h : Decided limit level pending c cs (.absorb kind))
    (hpending : ∀ l, pending = some l → Run level l.kind l.text.toList (c :: cs)) :
    level.Joins (c :: cs) kind := by
  cases h with
  | @grown t n next same =>
    cases t with
    | leaf kind constraint => exact .leaf next
    | branch kind start stop inner =>
      -- no leaf has the kind of a branch among the rules
      obtain ⟨l, rfl, hkind⟩ : ∃ l, pending = some l ∧ l.kind = kind := by
        simpa [TokenType.kind, Option.any_eq_true] using same
      have hmem := Level.mem_of_next_branch next rfl
      have hnamed : l.kind ≠ wordKind := hkind ▸ hlevel.rules.kind_ne_word hmem
      obtain ⟨constraint, hleaf⟩ := (hpending l rfl).exists_mem hnamed
      cases hlevel.rules.eq_of_kind_eq hleaf hmem hkind
  | begun comes short =>
    -- a leaf begins, or the text goes on because a branch is given up
    exact .leaf comes.next
  | givenUp comes fails => exact .givenUp comes.next rfl comes.foreign

/-- Where a leaf begins with a character, no more than that character was measured. -/
theorem Decided.short {c : Char} {cs : List Char} {kind : String} (hlevel : level.Proper)
    (h : Decided limit level none c cs (.absorb kind)) {constraint : Option Constraint} {n : Nat}
    (hnext : level.next (c :: cs) = ⟨.leaf kind constraint, n⟩) : n = c.utf8Size := by
  cases h with
  | grown next same => cases same
  | begun comes short =>
    obtain ⟨-, rfl⟩ : _ ∧ _ = n := by simpa using comes.next.symm.trans hnext
    obtain ⟨hpos, hboundary⟩ := hlevel.next_boundary comes.next
    obtain ⟨piece, tail, hcut, rfl⟩ := Text.isBoundary_iff.mp hboundary
    -- what was measured is at least one character, and no more than that
    cases piece with
    | nil => exact absurd hpos (Nat.lt_irrefl 0)
    | cons d piece =>
      obtain rfl : c = d := (List.cons.inj hcut).1
      exact Nat.le_antisymm short (Nat.le_add_right _ _)
  | givenUp comes fails =>
    have hsame := comes.next.symm.trans hnext
    simp at hsame

theorem Leaf.absorb_none_toList (kind : String) (c : Char) :
    (absorb kind c none).2.text.toList = [c] := by
  simp [absorb, Char.toString]

/-- **A run goes on** with the character that is absorbed, or a new one begins. -/
theorem Decided.run_absorb {c : Char} {cs : List Char} {kind : String} (hlevel : level.Proper)
    (h : Decided limit level pending c cs (.absorb kind))
    (hpending : ∀ l, pending = some l → Run level l.kind l.text.toList (c :: cs)) :
    Run level kind (Leaf.absorb kind c pending).2.text.toList cs := by
  have hjoins := h.joins hlevel hpending
  cases pending with
  | none =>
    rw [Leaf.absorb_none_toList]
    exact .begun hjoins fun _ _ => h.short hlevel
  | some l =>
    -- the leaf under way grows, or another one begins
    by_cases hkind : l.kind = kind
    · subst hkind
      rw [Leaf.absorb, if_pos rfl, String.toList_push]
      exact .grown (hpending l rfl) hjoins
    · rw [Leaf.absorb_of_kind_ne hkind, Leaf.absorb_none_toList]
      exact .begun hjoins fun _ _ => (h.absorb_afresh hkind).short hlevel

/-- A finished leaf covers its run. -/
theorem Row.finish (h : Row limit level coming tokens rest)
    (hpending : ∀ l, pending = some l → Run level l.kind l.text.toList coming) :
    Row limit level ((Leaf.held pending).toList ++ coming) (Leaf.finish pending ++ tokens)
      rest := by
  cases pending with
  | none => exact h
  | some l =>
    have hcovers : Covers limit level (.leaf l.kind (String.ofList l.text.toList)) l.text.toList
        coming := .run (hpending l rfl)
    rw [String.ofList_toList] at hcovers
    exact .cons hcovers h

/-- **A reading lays its tokens along the text,** what the leaf under way holds being in front. -/
theorem Reads.row (h : Reads limit level pending coming tokens rest) (hlevel : level.Proper)
    (hpending : ∀ l, pending = some l → Run level l.kind l.text.toList coming) :
    Row limit level ((Leaf.held pending).toList ++ coming) tokens rest := by
  induction h with
  | @finished limit level pending top =>
    -- no token is left, so the row is the leaf under way
    have hnil : Row limit level [] [] [] := .nil
    simpa only [List.append_nil] using hnil.finish hpending
  | @ended limit level pending c cs ends =>
    have hnil : Row limit level (c :: cs) [] (c :: cs) := .nil
    simpa only [List.append_nil] using hnil.finish hpending
  | @absorbed limit level pending c cs kind tokens rest goes onward ih =>
    -- the leaf that the character goes to is a run, as far as it has come
    have hrun := goes.run_absorb hlevel hpending
    have hrow := ih hlevel fun l hl => by
      cases hl
      rwa [Leaf.absorb_snd_kind]
    cases pending with
    | none => simpa [Leaf.held, Leaf.absorb, Char.toString] using hrow
    | some l =>
      by_cases hkind : l.kind = kind
      · -- the leaf under way has grown by the character
        rw [Leaf.absorb, if_pos hkind] at hrow ⊢
        simpa [Leaf.held] using hrow
      · -- it ends in front of the character
        rw [Leaf.absorb_of_kind_ne hkind] at hrow ⊢
        simp only [Leaf.held, Option.map_some, Option.getD_some, Leaf.absorb_none_toList] at hrow
        exact hrow.finish hpending
  | @whole limit level pending kind constraint text cs tokens rest comes long onward ih =>
    -- the match comes first in the row, behind the leaf under way
    have hrow := ih hlevel (by rintro _ ⟨⟩)
    exact (Row.cons (.whole comes.next long) hrow).finish hpending
  | @branch limit level pending kind start stop inner interior children cs tokens rest comes filled
      within onward ihin ihon =>
    -- the branch covers its delimiters and what is between them
    obtain ⟨middle, rfl⟩ := within.suffix
    have hcovers : Covers (limit + 1) level (.branch kind children)
        (start.toList ++ (middle ++ stop.toList)) cs := .branch comes.afresh within
    have hrow := Row.cons hcovers (ihon hlevel (by rintro _ ⟨⟩))
    simp only [List.append_assoc] at hrow
    exact hrow.finish hpending

end Scan

/-! ### Places in a text -/

namespace Text

variable {whole rest : List Char} {position : Nat}

/-- What stands at a position is what is left behind it. -/
theorem StandsAt.dropBytes_eq (h : StandsAt whole position rest) :
    dropBytes position whole = rest := by
  obtain ⟨front, rfl, rfl⟩ := h
  exact dropBytes_append front rest

/-- Where something stands is a boundary. -/
theorem StandsAt.isBoundary_eq (h : StandsAt whole position rest) :
    isBoundary position whole = true := by
  obtain ⟨front, hwhole, hposition⟩ := h
  exact isBoundary_iff.mpr ⟨front, rest, hwhole, hposition⟩

end Text

namespace Scan

variable {limit : Nat} {level : Level} {coming rest : List Char} {tokens : List Token}

/-- **The extent of what a row covers** is that of its tokens. -/
theorem Row.byteLength_eq (h : Row limit level coming tokens rest) (hlevel : level.Proper) :
    Text.byteLength coming = level.extentAll tokens + Text.byteLength rest := by
  -- what a branch holds is a row at a level where less nesting is allowed
  induction limit using Nat.strongRecOn generalizing level coming tokens rest with
  | ind limit ihlimit =>
  induction h with
  | nil => rw [Level.extentAll, Nat.zero_add]
  | @cons token tokens piece coming rest first others ih =>
    suffices hfirst : level.extent token = Text.byteLength piece by
      rw [Level.extentAll, Text.byteLength_append, ih, hfirst, Nat.add_assoc]
    cases first with
    | whole => rw [Level.extent, Text.byteLength_ofList]
    | run => rw [Level.extent, Text.byteLength_ofList]
    | @branch limit _ kind start stop inner middle children behind comes within =>
      have hmem := Level.mem_of_next_branch comes.next rfl
      -- the interior is a row up to the closing delimiter, which cancels
      have hinside := hlevel.inside hmem rfl
      have hwithin := ihlimit limit (Nat.lt_succ_self limit) (within.row hinside fun _ => nofun)
        hinside
      have htype : level.typeOf kind = .branch kind start stop inner :=
        Level.typeOf_kind hlevel.rules hmem
      have hmiddle : Text.byteLength middle =
          (level.inside (.branch kind start stop inner)).extentAll children := by
        have hheld : (Leaf.held none).toList = [] := rfl
        rw [hheld, List.nil_append, Text.byteLength_append middle] at hwithin
        exact Nat.add_right_cancel hwithin
      rw [Level.extent, htype, ← hmiddle]
      simp only [TokenType.start?, TokenType.stop?, Option.getD_some, Text.byteLength_append,
        Text.byteLength_toList, Nat.add_assoc]

/-- A token covers as many bytes as its extent says. -/
theorem Covers.byteLength_eq {token : Token} {piece behind : List Char}
    (h : Covers limit level token piece behind) (hlevel : level.Proper) :
    Text.byteLength piece = level.extent token := by
  have hrow := (Row.cons h .nil).byteLength_eq hlevel
  rw [Text.byteLength_append, Level.extentAll, Level.extentAll, Nat.add_zero] at hrow
  exact Nat.add_right_cancel hrow

end Scan

/-- **A token found in its place.** What it covers stands in the whole text from its position on,
and the rules of its level are some that a scan can come to. -/
structure Place.Found (g : Grammar) (whole : List Char) (p : Place) : Prop where
  proper : p.level.Proper
  usable : g.Usable p.level.rules
  covers : ∃ limit piece behind, Scan.Covers limit p.level p.token piece behind ∧
    Text.StandsAt whole p.position (piece ++ behind)

namespace Place.Found

variable {g : Grammar} {p : Place} {text : String}

/-- What a token covers is its slice of the text, and what follows stands where the token has
ended. -/
theorem exists_piece (h : p.Found g text.toList) :
    ∃ limit piece behind, Scan.Covers limit p.level p.token piece behind ∧
      p.slice text = String.ofList piece ∧
      Text.StandsAt text.toList p.position (piece ++ behind) ∧
      Text.StandsAt text.toList p.finish behind := by
  obtain ⟨limit, piece, behind, hcovers, hstands⟩ := h.covers
  have hextent : p.extent = Text.byteLength piece := (hcovers.byteLength_eq h.proper).symm
  refine ⟨limit, piece, behind, hcovers, ?_, hstands, ?_⟩
  · rw [slice, hstands.dropBytes_eq, hextent, Text.takeBytes_append]
  · rw [finish, hextent]
    exact hstands.advance

/-- **A leaf covers its text.** -/
theorem slice_leaf (h : p.Found g text.toList) {kind content : String}
    (htoken : p.token = .leaf kind content) : p.slice text = content := by
  obtain ⟨limit, piece, behind, hcovers, hslice, -⟩ := h.exists_piece
  rw [htoken] at hcovers
  cases hcovers with
  | whole => exact hslice
  | run => exact hslice

end Place.Found

namespace Scan

variable {limit : Nat} {level : Level} {coming rest whole : List Char} {tokens : List Token}
  {g : Grammar} {position : Nat}

/-- **Every token of a row is found in its place,** and so is what the branches hold. -/
theorem Row.found (h : Row limit level coming tokens rest) (hlevel : level.Proper)
    (husable : g.Usable level.rules) (hstands : Text.StandsAt whole position coming) :
    ∀ p ∈ level.places position tokens, p.Found g whole := by
  -- the interior of a branch is a row where less nesting is allowed; its neighbours come after it
  induction limit using Nat.strongRecOn generalizing level coming tokens rest position with
  | ind limit ihlimit =>
  induction h generalizing position with
  | nil => exact fun _ => nofun
  | @cons token tokens piece coming rest first others ih =>
    intro p hp
    rw [Level.places] at hp
    -- inside the first token, or among those behind it
    rcases List.mem_append.mp hp with hp | hp
    · have hfound : Place.Found g whole ⟨level, position, token⟩ :=
        ⟨hlevel, husable, _, _, _, first, hstands⟩
      cases first with
      | whole => exact List.mem_singleton.mp hp ▸ hfound
      | run => exact List.mem_singleton.mp hp ▸ hfound
      | @branch limit _ kind start stop inner middle children behind comes within =>
        have hmem := Level.mem_of_next_branch comes.next rfl
        have htype : level.typeOf kind = .branch kind start stop inner :=
          Level.typeOf_kind hlevel.rules hmem
        rw [Level.placesOf, htype] at hp
        rcases List.mem_cons.mp hp with rfl | hp
        · exact hfound
        · -- the interior stands behind the opening delimiter
          have hinside := hlevel.inside hmem rfl
          have hinner : Text.StandsAt whole (position + start.utf8ByteSize)
              (middle ++ (stop.toList ++ coming)) := by
            simp only [List.append_assoc] at hstands
            simpa only [Text.byteLength_toList] using hstands.advance
          exact ihlimit limit (Nat.lt_succ_self limit) (within.row hinside fun _ => nofun) hinside
            (husable.level_inside hmem) hinner p hp
    · rw [← first.byteLength_eq hlevel] at hp
      exact ih hstands.advance p hp

end Scan

/-! ### The tokens of a text -/

namespace Tokenizer

/-- **The places of the tokens of a text,** of those inside branches as well. -/
def places (t : Tokenizer) (text : String) : List Place :=
  (Level.top t.grammar).places 0 (t.tokenize text)

/-- The places of a text are those of all its tokens. -/
theorem map_visit_places (t : Tokenizer) (text : String) :
    (t.places text).map Place.visit = Token.walkList 0 (t.tokenize text) :=
  Level.map_visit_places _ _ _

/-- **The tokens of a text are found in their places.** -/
theorem found {t : Tokenizer} (hg : t.grammar.Valid) (text : String) :
    ∀ p ∈ t.places text, p.Found t.grammar text.toList := by
  have hlevel := Level.proper_top hg
  have hrow := (reads_tokenize hg text).row hlevel fun _ => nofun
  exact hrow.found hlevel .top (Text.standsAt_zero _)

end Tokenizer
end InlineMarkup
